import WorkWithMe.Mcp.Url
import WorkWithMe.Server.Hub
import WorkWithMe.Server.Abort
import WorkWithMe.Server.Handles
import WorkWithMe.Server.AgentErrors
import WorkWithMe.Server.ModelChoice
import WorkWithMe.Sessions.Store
import WorkWithMe.Sessions.Identity
import WorkWithMe.Sessions.Interleave
import WorkWithMe.Sessions.Cwd
import WorkWithMe.Mcp.Config
import WorkWithMe.Server.Inputs
import WorkWithMe.Server.Locks
import WorkWithMe.Voice.Startup
import WorkWithMe.Voice.Summary
import WorkWithMe.Voice.LifeCycle
import WorkWithMe.Dictation.Conservation
import WorkWithMe.Dictation.Button
import WorkWithMe.Voice.Window
import WorkWithMe.Screenshot.Editor
import WorkWithMe.Lib.Grouping
import WorkWithMe.Sessions.Listing
import WorkWithMe.Client.Sidebar
import WorkWithMe.Lib.Js
import WorkWithMe.Server.Events
import WorkWithMe.Client.Transcript
import WorkWithMe.Client.Stream
import WorkWithMe.Client.Tags
import WorkWithMe.Client.Connection
import WorkWithMe.Client.Truth
import WorkWithMe.Client.Reconnect
import WorkWithMe.Client.Project
import WorkWithMe.Client.Model
import WorkWithMe.Voice.Shortcuts
import WorkWithMe.Library.Db
import WorkWithMe.Library.Paging
import WorkWithMe.Library.Files
import WorkWithMe.Library.Pictures
import WorkWithMe.Library.Ocr
import WorkWithMe.Lib.Posix
import WorkWithMe.Sessions.Disk
import WorkWithMe.Skills.Content
import WorkWithMe.Sessions.Archive
import WorkWithMe.Lib.Serial
import WorkWithMe.Server.Settings
import WorkWithMe.Server.Models
import WorkWithMe.Server.Updates
import WorkWithMe.Server.Selection
import WorkWithMe.Connectors.Adding
import WorkWithMe.Dictation.Rates
import WorkWithMe.Lib.Waiting
import WorkWithMe.Server.Processes
import WorkWithMe.Lib.JsonText
import WorkWithMe.Lib.Lines
import WorkWithMe.Server.Logs
import WorkWithMe.Server.FileApi
import WorkWithMe.Lib.Rust
import WorkWithMe.Server.Credentials
import WorkWithMe.Server.Login
import WorkWithMe.Server.Router
import WorkWithMe.Lib.Index
import WorkWithMe.Server.Plugins
import WorkWithMe.Lib.F64
import WorkWithMe.Voice.Transcription
import WorkWithMe.Voice.Extraction
import WorkWithMe.Lib.Limiter
import WorkWithMe.Server.Notifications
import WorkWithMe.Mcp.Servers
import WorkWithMe.Server.Laws
import WorkWithMe.Server.CredentialStore
import WorkWithMe.Server.Completions
import WorkWithMe.Lib.Digits
import WorkWithMe.Lib.Chrono
import WorkWithMe.Sessions.Newest
import WorkWithMe.Lib.Fts5
import WorkWithMe.Library.Search
import WorkWithMe.Lib.Decimal
import WorkWithMe.Recorder.Duration
import WorkWithMe.Client.DebouncedSave
import WorkWithMe.Recorder.TrimEditor
import WorkWithMe.Lib.Search
import WorkWithMe.Recorder.Devices
import WorkWithMe.Recorder.Options
import WorkWithMe.Client.ToolStatus
import WorkWithMe.Server.AuthStates
import WorkWithMe.Server.Spelling
import WorkWithMe.Client.ToolSteps
import WorkWithMe.Library.Loads
import WorkWithMe.Voice.Memory
import WorkWithMe.Voice.ShortcutSection
import WorkWithMe.Lib.Words
import WorkWithMe.Connectors.Slugs
import WorkWithMe.Lib.History
import WorkWithMe.Screenshot.Undo
import WorkWithMe.Recorder.TrimRange
import WorkWithMe.Client.Composer
import WorkWithMe.Skills.FrontMatter
import WorkWithMe.Lib.Dialog
import WorkWithMe.Pi.Model
import WorkWithMe.Pi.Agent
import WorkWithMe.Pi.Stream
import WorkWithMe.Pi.Tools
import WorkWithMe.Pi.Loop
import WorkWithMe.Pi.Protocol
import WorkWithMe.Pi.ReplyRules
import WorkWithMe.Pi.ToolRules
import WorkWithMe.Pi.Refinement
import WorkWithMe.Pi.ProtocolLaws
import WorkWithMe.Pi.Runs
import WorkWithMe.Pi.Forwarding
import WorkWithMe.Pi.Frames
import WorkWithMe.Pi.Delivery
import WorkWithMe.Pi.Results
import WorkWithMe.Lib.Lineage
import WorkWithMe.Pi.Compaction
import WorkWithMe.Pi.CompactionLaws
import WorkWithMe.Pi.SessionFile
import WorkWithMe.Pi.SessionResults
import WorkWithMe.Pi.Recorded
import WorkWithMe.Pi.AgentSession
import WorkWithMe.Pi.Prompts
import WorkWithMe.Pi.PromptResults
