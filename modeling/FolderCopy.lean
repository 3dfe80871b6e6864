import FolderCopy.Directory
import FolderCopy.Log.Sink
import FolderCopy.Pacing
import FolderCopy.Proofs.Transfer.Run
import FolderCopy.Simulation.Scenario
import FolderCopy.Proofs.Transfer.History
import FolderCopy.Proofs.Transfer.Account
import FolderCopy.Proofs.Transfer.Course
import FolderCopy.Proofs.Transfer.Records
import FolderCopy.Proofs.Transfer.Outcome
import FolderCopy.Proofs.Transfer.Deletion
import FolderCopy.Proofs.Transfer.Mirror
import FolderCopy.Proofs.Transfer.Namesakes
import FolderCopy.Proofs.Transfer.StatusStream
import FolderCopy.Proofs.Transfer.Counters
import FolderCopy.Proofs.Transfer.Slots
import FolderCopy.Proofs.Transfer.Requests
import FolderCopy.Proofs.Transfer.Phases
import FolderCopy.Proofs.Transfer.Fetches
import FolderCopy.Proofs.Transfer.Schedule
import FolderCopy.Proofs.Transfer.Liveness
import FolderCopy.Proofs.Transfer.Termination
import FolderCopy.Proofs.Transfer.Grounds
import FolderCopy.Proofs.Transfer.World
import FolderCopy.Proofs.Transfer.Agreement
import FolderCopy.Proofs.Transfer.Confluence
import FolderCopy.Proofs.Exchanges
import FolderCopy.Proofs.Retry.Attempts
import FolderCopy.Proofs.Enumeration.Forms
import FolderCopy.Proofs.Resolution.Walk
import FolderCopy.Proofs.Resolution.Creation
import FolderCopy.Proofs.Resolution.FirstPage
import FolderCopy.Proofs.Retry.Reference
import FolderCopy.Proofs.Admission.Operations
import FolderCopy.Proofs.Admission.Paced
import FolderCopy.Proofs.Text.Utf8
import FolderCopy.Proofs.Json.Writing
import FolderCopy.Proofs.Text.Percent
import FolderCopy.Proofs.Drive.Query
import FolderCopy.Proofs.Json.Document
import FolderCopy.Proofs.Json.Spelling
import FolderCopy.Proofs.Json.Rendering
import FolderCopy.Proofs.Drive.Requests
import FolderCopy.Proofs.Drive.Verdicts
import FolderCopy.Proofs.Json.Fields
import FolderCopy.Proofs.Drive.Pages
import FolderCopy.Proofs.Pacing.Spacing
import FolderCopy.Proofs.Service.Absences
import FolderCopy.Proofs.Transfer.Budget
import FolderCopy.Proofs.Json.Formats
import FolderCopy.Proofs.Log.Secrets
import FolderCopy.Proofs.Pacing.Earliest
import FolderCopy.Proofs.Service.Removal
import FolderCopy.Proofs.Transfer.Surplus
import FolderCopy.Proofs.FolderPaths
import FolderCopy.Proofs.LocalNames
import FolderCopy.Proofs.Transfer.Targets
import FolderCopy.Proofs.DoublePrecision
import FolderCopy.Proofs.ByteSizes
import FolderCopy.Proofs.Progress
