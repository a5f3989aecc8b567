import SmsActivate.Lib.Runs
import SmsActivate.Lib.Tables
import SmsActivate.Lib.Pending
import SmsActivate.Lib.Partial
import SmsActivate.LateReplies
import SmsActivate.Attribution
import SmsActivate.Refunds
import SmsActivate.Displacement
import SmsActivate.Recorded
import SmsActivate.Lookups
import SmsActivate.Answers
import SmsActivate.Loading
import SmsActivate.Overdraft
import SmsActivate.Expiry
import SmsActivate.Updates
import SmsActivate.Ticking
import SmsActivate.Decoding
import SmsActivate.Buying
import SmsActivate.Session
import SmsActivate.Tokens
import SmsActivate.Charges
import SmsActivate.Agreement
import SmsActivate.Incomplete
import SmsActivate.Settling
import SmsActivate.Lib.Budgets
import SmsActivate.Lib.Simulation
import SmsActivate.Lib.Slots
import SmsActivate.Lib.Sharing
import SmsActivate.Traffic
import SmsActivate.Requests
import SmsActivate.Cascade
import SmsActivate.Traps
import SmsActivate.Polling
import SmsActivate.Isolation
import SmsActivate.Issued
import SmsActivate.Lib.Mirrors
import SmsActivate.Mirroring
import SmsActivate.Filing
import SmsActivate.Progress
import SmsActivate.Timeouts
import SmsActivate.Announcements
import SmsActivate.Numerals
import SmsActivate.Screen
import SmsActivate.Choices
import SmsActivate.Bundled
import SmsActivate.Lib.Queries
import SmsActivate.Wire
import SmsActivate.Gateway
import SmsActivate.Getters
