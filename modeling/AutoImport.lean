import AutoImport.Binding.Json
import AutoImport.Cli.Run
import AutoImport.Files
import AutoImport.Grid
import AutoImport.Main
import AutoImport.Output
import AutoImport.Settings.Load
import AutoImport.Table
import AutoImport.Vim
import AutoImport.Proofs.Line.Statement
import AutoImport.Proofs.Load.Account
import AutoImport.Proofs.Load.Stop
import AutoImport.Proofs.Load.Join
import AutoImport.Proofs.Cli.Status
import AutoImport.Proofs.Cli.Refused
import AutoImport.Proofs.Cli.Verbose
import AutoImport.Proofs.Output
import AutoImport.Proofs.Table.Loads
import AutoImport.Proofs.Table.Export
import AutoImport.Proofs.Vim.Loads
import AutoImport.Proofs.Cli.Lookup
import AutoImport.Proofs.Cli.Check
import AutoImport.Proofs.Cli.Listing
import AutoImport.Proofs.Cli.ExplicitFile
import AutoImport.Proofs.Settings.Choice
import AutoImport.Proofs.Table.Answers
import AutoImport.Proofs.Vim.Script
import AutoImport.Proofs.Load.Words
import AutoImport.Proofs.Table.Reload
import AutoImport.Proofs.Names.Steps
import AutoImport.Proofs.Path
import AutoImport.Proofs.Cli.Answer
import AutoImport.Proofs.Settings.Printed
import AutoImport.Proofs.Grid.Bindings
import AutoImport.Proofs.Load.Labels
