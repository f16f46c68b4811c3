import MlMetadata.Absl
import MlMetadata.Query.JoinTemplates
import MlMetadata.Query.FilterQueryBuilder
import MlMetadata.Query.AliasRegistry
import MlMetadata.Query.Runs
import MlMetadata.Sql.Lexer
import MlMetadata.Sql.Parser
import MlMetadata.Query.JoinSyntax
import MlMetadata.Query.FromClause
import MlMetadata.Sql.Semantics
import MlMetadata.Query.JoinSemantics
import MlMetadata.Bench.Compose
