import PacScript.Host.Reference
import PacScript.Host.Table
import PacScript.Resolver.Host
import PacScript.Script.Library
import PacScript.Settings.File
import PacScript.Yaml.Codec
import PacScript.Proofs.Script.Running
import PacScript.Proofs.Script.Outcome
import PacScript.Proofs.Glob.Matching
import PacScript.Proofs.Glob.Meaning
import PacScript.Proofs.Glob.Store
import PacScript.Proofs.Glob.Recency
import PacScript.Proofs.Address.SortKey
import PacScript.Proofs.Address.SortedList
import PacScript.Proofs.Address.SortedText
import PacScript.Proofs.Number.Order
import PacScript.Proofs.Number.Rounding
import PacScript.Proofs.Number.Numeral
import PacScript.Proofs.Period.Argument
import PacScript.Proofs.Period.Between
import PacScript.Proofs.Period.TimeReading
import PacScript.Proofs.Period.DateReading
import PacScript.Proofs.Resolver.Operations
import PacScript.Proofs.Resolver.Steps
import PacScript.Proofs.Resolver.Alone
import PacScript.Proofs.Resolver.Freshness
import PacScript.Proofs.Resolver.Flights
import PacScript.Proofs.Resolver.Calls
import PacScript.Proofs.Resolver.SingleFlight
import PacScript.Proofs.Address.Quad
import PacScript.Proofs.Address.Mask
import PacScript.Proofs.Address.Literal
import PacScript.Proofs.Proxy.Authority
import PacScript.Proofs.Proxy.Entries
import PacScript.Proofs.Proxy.RoundTrip
import PacScript.Proofs.Host.Steady
import PacScript.Proofs.Script.Frozen
import PacScript.Proofs.Script.Evaluations
import PacScript.Proofs.Text.Lower
import PacScript.Proofs.Address.LowerCase
import PacScript.Proofs.Proxy.Folded
import PacScript.Proofs.Proxy.Reprint
import PacScript.Proofs.Proxy.Acceptance
import PacScript.Proofs.Proxy.WellFormed
import PacScript.Proofs.Resolver.Transparent
import PacScript.Proofs.Settings.Reading
import PacScript.Proofs.Settings.Escapes
import PacScript.Proofs.Period.Instants
import PacScript.Proofs.Script.Malformed
import PacScript.Proofs.Script.HostFault
import PacScript.Proofs.Text.Letters
import PacScript.Proofs.Number.Decimal
import PacScript.Proofs.Period.WeekdayReading
import PacScript.Proofs.Period.Likeness
import PacScript.Proofs.Period.Presentation
import PacScript.Proofs.Settings.RoundTrip
import PacScript.Proofs.Address.FamilyOrder
import PacScript.Proofs.Host.Resolution
import PacScript.Proofs.Address.Prefix
import PacScript.Proofs.Host.Membership
import PacScript.Proofs.Resolver.Deadlines
import PacScript.Proofs.Resolver.Apart
import PacScript.Proofs.Calendar.Date
import PacScript.Proofs.Period.Recurring
import PacScript.Proofs.Period.Lasting
import PacScript.Proofs.Glob.Pattern
import PacScript.Proofs.Glob.Regex
import PacScript.Proofs.Resolver.Failures
import PacScript.Proofs.Calendar.Weekday
import PacScript.Proofs.Period.Weekly
import PacScript.Proofs.Resolver.Cache
import PacScript.Proofs.Resolver.Eviction
import PacScript.Proofs.Resolver.Intact
import PacScript.Proofs.Resolver.Primary
import PacScript.Proofs.Address.Grammar
import PacScript.Proofs.Address.Decoration
import PacScript.Proofs.Address.Reordering
import PacScript.Proofs.Address.Printed
import PacScript.Proofs.Address.Joined
import PacScript.Proofs.Host.SortedAnswer
import PacScript.Proofs.Address.Canonical
import PacScript.Proofs.HostName
import PacScript.Proofs.Address.FirstSeen
import PacScript.Proofs.Resolver.Told
import PacScript.Proofs.Resolver.LocalAddresses
