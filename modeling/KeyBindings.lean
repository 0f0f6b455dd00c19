import KeyBindings.Command.Typed
import KeyBindings.Editing
import KeyBindings.Main
import KeyBindings.Proofs.Binding.Consistency
import KeyBindings.Proofs.Binding.Runs
import KeyBindings.Proofs.Binding.Ownership
import KeyBindings.Proofs.KeysFile.Written
import KeyBindings.Proofs.KeysFile.Reload
import KeyBindings.Proofs.Command.Grammar
import KeyBindings.Proofs.Files.Tree
import KeyBindings.Proofs.Text.Utf8
import KeyBindings.Proofs.Binding.Defaults
import KeyBindings.Proofs.Binding.Filling
import KeyBindings.Proofs.Files.Writing
import KeyBindings.Proofs.Key.UsualNames
import KeyBindings.Proofs.KeysFile.Storage
import KeyBindings.Proofs.Restart
import KeyBindings.Proofs.Command.Typing
import KeyBindings.Proofs.Legend.Paging
import KeyBindings.Proofs.CommandLine.Check
import KeyBindings.Proofs.Key.SparseNames
import KeyBindings.Proofs.KeysFile.DefaultsFile
import KeyBindings.Proofs.KeysFile.FilledDefaults
import KeyBindings.Proofs.Text.Spelling
import KeyBindings.Proofs.Key.Units
import KeyBindings.Proofs.Command.Segments
import KeyBindings.Proofs.Pressable
import KeyBindings.Proofs.KeysFile.AnyKeys
import KeyBindings.Proofs.KeysFile.Returned
import KeyBindings.Proofs.Unbound
import KeyBindings.Proofs.KeysFile.Reporting
import KeyBindings.Proofs.CommandLine.Acceptance
import KeyBindings.Proofs.Binding.Calls
import KeyBindings.Proofs.Binding.Undoing
import KeyBindings.Proofs.KeysFile.LineOrder
import KeyBindings.Proofs.KeysFile.Spacing
import KeyBindings.Proofs.Key.NameTable
import KeyBindings.Proofs.Legend.Columns
import KeyBindings.Proofs.Text.Clipping
import KeyBindings.Proofs.Text.ShownWidth
import KeyBindings.Proofs.Legend.Drawing
import KeyBindings.Proofs.Tester.Turns
import KeyBindings.Proofs.Tester.Pages
import KeyBindings.Proofs.Setting.Sections
import KeyBindings.Proofs.KeysFile.Storing
import KeyBindings.Proofs.Journal.Setup
