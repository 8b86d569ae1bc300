import TikkaRaffle.Properties.Addresses
import TikkaRaffle.Properties.Alerts
import TikkaRaffle.Properties.Allowance
import TikkaRaffle.Properties.Answers
import TikkaRaffle.Properties.Appointments
import TikkaRaffle.Properties.Attestation
import TikkaRaffle.Properties.Balance
import TikkaRaffle.Properties.Bundles
import TikkaRaffle.Properties.Charges
import TikkaRaffle.Properties.ClaimWindow
import TikkaRaffle.Properties.Cleanup
import TikkaRaffle.Properties.Commits
import TikkaRaffle.Properties.Configuration
import TikkaRaffle.Properties.Confirmations
import TikkaRaffle.Properties.Counters
import TikkaRaffle.Properties.CreationTerms
import TikkaRaffle.Properties.Dashboard
import TikkaRaffle.Properties.DeadLetters
import TikkaRaffle.Properties.Deadline
import TikkaRaffle.Properties.Departures
import TikkaRaffle.Properties.Deployed
import TikkaRaffle.Properties.Drain
import TikkaRaffle.Properties.Drawing
import TikkaRaffle.Properties.Dust
import TikkaRaffle.Properties.Emergency
import TikkaRaffle.Properties.EventLog
import TikkaRaffle.Properties.Exits
import TikkaRaffle.Properties.FatalCodes
import TikkaRaffle.Properties.Fees
import TikkaRaffle.Properties.Gates
import TikkaRaffle.Properties.Gifts
import TikkaRaffle.Properties.Handover
import TikkaRaffle.Properties.Income
import TikkaRaffle.Properties.Indexes
import TikkaRaffle.Properties.KeyLifecycle
import TikkaRaffle.Properties.Leaderboards
import TikkaRaffle.Properties.Lifecycle
import TikkaRaffle.Properties.Listening
import TikkaRaffle.Properties.Listings
import TikkaRaffle.Properties.Oracle
import TikkaRaffle.Properties.Pace
import TikkaRaffle.Properties.Pages
import TikkaRaffle.Properties.Partners
import TikkaRaffle.Properties.Pauses
import TikkaRaffle.Properties.Previews
import TikkaRaffle.Properties.Prize
import TikkaRaffle.Properties.QueueAge
import TikkaRaffle.Properties.Quorum
import TikkaRaffle.Properties.Quotes
import TikkaRaffle.Properties.Recovery
import TikkaRaffle.Properties.Redaction
import TikkaRaffle.Properties.Refunds
import TikkaRaffle.Properties.Restart
import TikkaRaffle.Properties.Rounds
import TikkaRaffle.Properties.Schedules
import TikkaRaffle.Properties.SecretKeys
import TikkaRaffle.Properties.Selection
import TikkaRaffle.Properties.SequenceCache
import TikkaRaffle.Properties.Shutdown
import TikkaRaffle.Properties.Solvency
import TikkaRaffle.Properties.Statistics
import TikkaRaffle.Properties.Submissions
import TikkaRaffle.Properties.Suppression
import TikkaRaffle.Properties.Suspensions
import TikkaRaffle.Properties.Tickets
import TikkaRaffle.Properties.Tiers
import TikkaRaffle.Properties.Timelock
import TikkaRaffle.Properties.Tracking
import TikkaRaffle.Properties.Ttl
import TikkaRaffle.Properties.UniqueWinners
import TikkaRaffle.Properties.Validation
import TikkaRaffle.Properties.Volume
import TikkaRaffle.Properties.Wallets
import TikkaRaffle.Properties.Wipe
