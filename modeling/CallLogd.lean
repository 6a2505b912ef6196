import CallLogd.Generation.Batches
import CallLogd.Manager
import CallLogd.Database.Consistency
import CallLogd.Database.Fetch
import CallLogd.Concurrency.Overwriting
import CallLogd.Database.Retention
import CallLogd.Database.Retry
import CallLogd.Generation.Recordings
import CallLogd.Generation.Uniqueness
import CallLogd.Lib.Calendar
import CallLogd.Lib.Clocks
import CallLogd.Lib.Files
import CallLogd.Lib.Like
import CallLogd.Lib.Purging
import CallLogd.Lib.Steps
import CallLogd.Listing.Peers
import CallLogd.Listing.Tenants
import CallLogd.Listing.Users
import CallLogd.Media.Deletion
import CallLogd.Media.ExportTask
import CallLogd.Media.History
import CallLogd.Media.Removal
import CallLogd.Statistics.Additivity
import CallLogd.Generation.Chronology
import CallLogd.Generation.HiddenExtensions
import CallLogd.Generation.ParticipantTable
import CallLogd.Generation.Requested
import CallLogd.Lib.Repetitions
import CallLogd.Listing.Pagination
import CallLogd.Statistics.AgentTotals
import CallLogd.Statistics.Qos
import CallLogd.Statistics.Tiling
import CallLogd.Transcription.Deliveries
import CallLogd.Generation.Conservation
import CallLogd.Generation.Conversation
import CallLogd.Interpretor.Authority
import CallLogd.Interpretor.DestinationNames
import CallLogd.Interpretor.MalformedMixmonitor
import CallLogd.Interpretor.MissedCalls
import CallLogd.Interpretor.Totality
import CallLogd.Interpretor.UserForward
import CallLogd.Generation.ChainedForwards
import CallLogd.Generation.InternalExtensions
import CallLogd.Generation.LineChannels
import CallLogd.Generation.Notifications
import CallLogd.Generation.TenantAttribution
import CallLogd.Generation.VoicemailLookups
import CallLogd.Listing.RecordingNames
import CallLogd.Listing.Search
import CallLogd.Transcription.Search
import CallLogd.Database.Storing
import CallLogd.Lib.Csv
import CallLogd.Lib.Cursor
import CallLogd.Listing.CsvOutput
import CallLogd.Listing.Details
import CallLogd.Listing.Numbers
import CallLogd.Media.DownloadNames
import CallLogd.Media.ExportRuns
import CallLogd.Media.Retentions
import CallLogd.Statistics.QueueList
