import RowMapper.Text.Classes
import RowMapper.Text.Escaped
import RowMapper.Text.LowerCase
import RowMapper.Text.Layout
import RowMapper.Text.Utf8
import RowMapper.Number.FloatText
import RowMapper.Number.Decimal.Text
import RowMapper.Calendar.DateTime
import RowMapper.Calendar.Interval
import RowMapper.Json.Basic
import RowMapper.Json.Reader
import RowMapper.Kind
import RowMapper.Dict
import RowMapper.Act
import RowMapper.Sql.Diagnostic
import RowMapper.Mapping.ClassInfo
import RowMapper.Compiler.Default
import RowMapper.Mapping.ObjectInfo
import RowMapper.Compiler.Forest
import RowMapper.Script.Session
import RowMapper.Script.Foreign
import RowMapper.Script.Handlers
import RowMapper.Script.View
import RowMapper.Script.Compilers
import RowMapper.Script.Cells
import RowMapper.Script.Objects
import RowMapper.Script.Run
import RowMapper.Toml.Quoted
import RowMapper.Toml.Scalar
import RowMapper.Toml.Table
import RowMapper.Toml.Reader
import RowMapper.Settings.Tree
import RowMapper.Settings.Basic
import RowMapper.Settings.Dialect
import RowMapper.Demo
import RowMapper.Main
import RowMapper.Proofs.Hierarchy.Links
import RowMapper.Proofs.Hierarchy.Refresh
import RowMapper.Proofs.Hierarchy.Usage
import RowMapper.Proofs.Hierarchy.Inheritance
import RowMapper.Proofs.Hierarchy.Layers
import RowMapper.Proofs.Hierarchy.WellFormed
import RowMapper.Proofs.Hierarchy.Entries
import RowMapper.Proofs.Hierarchy.Caches
import RowMapper.Proofs.Hierarchy.Tasks
import RowMapper.Proofs.Forest.References
import RowMapper.Proofs.Forest.Estate
import RowMapper.Proofs.Forest.Custody
import RowMapper.Proofs.Forest.Machine
import RowMapper.Proofs.Forest.Borrowing
import RowMapper.Proofs.Rendering.Printer
import RowMapper.Proofs.Rendering.Standard
import RowMapper.Proofs.Rendering.Compile
import RowMapper.Proofs.Reading.Grammar
import RowMapper.Proofs.Reading.Lexing
import RowMapper.Proofs.Reading.Conditions
import RowMapper.Proofs.Reading.Arithmetic
import RowMapper.Proofs.Reading.Leaning
import RowMapper.Proofs.Rendering.Depth
import RowMapper.Proofs.Rendering.Independence
import RowMapper.Proofs.Rendering.Placeholders
import RowMapper.Proofs.Rendering.Dialect
import RowMapper.Proofs.Rendering.Names
import RowMapper.Proofs.Cells.DirtyTracking
import RowMapper.Proofs.Cells.LazyValues
import RowMapper.Proofs.Cells.Notification
import RowMapper.Proofs.Cells.Refusal
import RowMapper.Proofs.Values.RoundTrip
import RowMapper.Proofs.Bus.Registry
import RowMapper.Proofs.Rendering.Flattening
import RowMapper.Proofs.Objects.Deletion
import RowMapper.Proofs.Objects.Checkpoints
import RowMapper.Proofs.Objects.Classes
import RowMapper.Proofs.Objects.Making
import RowMapper.Proofs.Objects.Dealings
import RowMapper.Proofs.Objects.Requests
import RowMapper.Proofs.Objects.Interference
import RowMapper.Proofs.Objects.Attachment
import RowMapper.Proofs.Rendering.Contexts
import RowMapper.Proofs.Rendering.Precedence
import RowMapper.Proofs.Rendering.Glyphs
import RowMapper.Proofs.Rendering.Comments
import RowMapper.Proofs.Rendering.Nesting
import RowMapper.Proofs.Calendar.ClockText
import RowMapper.Proofs.Calendar.Phrases
import RowMapper.Proofs.Calendar.Signs
import RowMapper.Proofs.Calendar.Printing
import RowMapper.Proofs.Calendar.Juxtaposition
import RowMapper.Proofs.Calendar.Bounds
