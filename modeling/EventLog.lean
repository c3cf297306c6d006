import EventLog.Capture
import EventLog.Host
import EventLog.Simple.Backend
import EventLog.Proofs.Text.Spelling
import EventLog.Proofs.Text.Marks
import EventLog.Proofs.Template.Rendering
import EventLog.Proofs.Event.Fields
import EventLog.Proofs.Template.Concatenation
import EventLog.Proofs.Disk.Growth
import EventLog.Proofs.Disk.Probe
import EventLog.Proofs.Disk.Paths
import EventLog.Proofs.Rolling.FileNames
import EventLog.Proofs.Rolling.Contents
import EventLog.Proofs.Rolling.History
import EventLog.Proofs.Rolling.Grouping
import EventLog.Proofs.Calendar
import EventLog.Proofs.Rolling.Refusal
import EventLog.Proofs.Rolling.Days
import EventLog.Proofs.Pipeline.Schedule
import EventLog.Proofs.Rolling.Shares
import EventLog.Proofs.Rolling.Delivery
import EventLog.Proofs.Pipeline.Accounting
import EventLog.Proofs.Pipeline.Answers
import EventLog.Proofs.Pipeline.Delivery
import EventLog.Proofs.Logger.Outcomes
import EventLog.Proofs.Simple.Runs
import EventLog.Proofs.Simple.Notices
import EventLog.Proofs.Simple.Consoles
import EventLog.Proofs.Simple.Filing
import EventLog.Proofs.Simple.Reconfiguration
import EventLog.Proofs.Simple.Numbering
import EventLog.Proofs.Disk.Occupied
import EventLog.Proofs.Disk.Lookups
import EventLog.Proofs.Disk.Overlay
import EventLog.Proofs.Disk.Directories
import EventLog.Proofs.Rolling.Search
import EventLog.Proofs.Rolling.NewFiles
import EventLog.Proofs.Pipeline.Redirects
import EventLog.Proofs.Template.Escaping
import EventLog.Proofs.Macros.Registration
import EventLog.Proofs.Facade.Startup
import EventLog.Proofs.Pipeline.Closing
import EventLog.Proofs.Simple.Closing
import EventLog.Proofs.Pipeline.Twins
import EventLog.Proofs.Rolling.Overlay
import EventLog.Proofs.Pipeline.Overlay
import EventLog.Proofs.Simple.Courses
import EventLog.Proofs.Simple.Overlay
import EventLog.Proofs.Simple.Refusals
import EventLog.Proofs.Template.Arguments
import EventLog.Proofs.Template.Extension
import EventLog.Proofs.Text.Cuts
import EventLog.Proofs.Template.Cursor
import EventLog.Proofs.Event.Bodies
import EventLog.Proofs.Macros.Calls
import EventLog.Proofs.Text.Order
import EventLog.Proofs.Text.Numerals
import EventLog.Proofs.Calendar.Dates
import EventLog.Proofs.Calendar.Clock
import EventLog.Proofs.Event.Records
import EventLog.Proofs.Disk.Folders
import EventLog.Proofs.Rolling.FailedOpens
import EventLog.Proofs.Rolling.NameOrder
import EventLog.Proofs.Rolling.Openings
import EventLog.Proofs.Macros.Placeholders
import EventLog.Proofs.Text.Decoding
import EventLog.Proofs.Formatter.Chains
import EventLog.Proofs.Disk.Questions
import EventLog.Proofs.Formatter.Paths
import EventLog.Proofs.Value.Layouts
import EventLog.Proofs.Facade.Bridge
import EventLog.Proofs.Frame.Names
import EventLog.Proofs.Frame.Symbols
import EventLog.Proofs.Simple.Checks
import EventLog.Proofs.Formatter.TypeNames
import EventLog.Proofs.Text.Blanks
import EventLog.Proofs.Simple.Environment
import EventLog.Proofs.Frame.Lines
