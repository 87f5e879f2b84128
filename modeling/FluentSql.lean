import FluentSql.Console
import FluentSql.Main
import FluentSql.Proofs.Condition.Forest
import FluentSql.Proofs.Condition.Shape
import FluentSql.Proofs.Console.Reports
import FluentSql.Proofs.Console.Table
import FluentSql.Proofs.Execution
import FluentSql.Proofs.Identifier.Compile
import FluentSql.Proofs.Independence.Compile
import FluentSql.Proofs.Operand.Compile
import FluentSql.Proofs.Outline.Dialects
import FluentSql.Proofs.Paging
import FluentSql.Proofs.Placeholder.Expansion
import FluentSql.Proofs.Placeholder.HandWritten
import FluentSql.Proofs.Placeholder.Translation
import FluentSql.Proofs.Secrecy.Operations
import FluentSql.Proofs.Session.Credentials
import FluentSql.Proofs.Session.Renewal
import FluentSql.Proofs.Session.Teardown
import FluentSql.Proofs.Settings.QueryString
import FluentSql.Proofs.Settings.ServerUrl
import FluentSql.Proofs.Sharing.Conditions
import FluentSql.Proofs.Sharing.Snapshot
import FluentSql.Proofs.Write.Grid
import FluentSql.Proofs.Write.Guard
import FluentSql.Proofs.Write.Upsert
import FluentSql.Rehearsal
import FluentSql.Script
