import ThreatHunt.Error.Document
import ThreatHunt.Hunt.Document
import ThreatHunt.Main
import ThreatHunt.Proofs.Hunt.Reachable
import ThreatHunt.Proofs.Fetch.SingleFlight
import ThreatHunt.Proofs.Fetch.Keys
import ThreatHunt.Proofs.Fetch.Contents
import ThreatHunt.Proofs.Hunt.Fetched
import ThreatHunt.Proofs.Hunt.Joined
import ThreatHunt.Proofs.Hunt.Requests
import ThreatHunt.Proofs.Hunt.Connected
import ThreatHunt.Proofs.Hunt.Typing
import ThreatHunt.Proofs.Hunt.Limited
import ThreatHunt.Proofs.Hunt.Around
import ThreatHunt.Proofs.Hunt.Sightings
import ThreatHunt.Proofs.Fetch.Repetition
import ThreatHunt.Proofs.Variables.Descent
import ThreatHunt.Proofs.Hunt.Evaluated
import ThreatHunt.Proofs.Hunt.Provenance
import ThreatHunt.Proofs.Hunt.Replaced
import ThreatHunt.Proofs.Variables.Collected
import ThreatHunt.Proofs.Storage.History
import ThreatHunt.Proofs.Hunt.Unrepeated
import ThreatHunt.Proofs.Pattern.Printed
import ThreatHunt.Proofs.Source.Stripped
import ThreatHunt.Proofs.Command.Isolation
import ThreatHunt.Proofs.Command.Creating
import ThreatHunt.Proofs.Pattern.Rearranged
import ThreatHunt.Proofs.Source.Separated
import ThreatHunt.Proofs.Command.Positions
import ThreatHunt.Proofs.Hunt.Semijoin
import ThreatHunt.Proofs.Table.Sorting
import ThreatHunt.Proofs.Table.Bounds
import ThreatHunt.Proofs.Pattern.WildcardText
import ThreatHunt.Proofs.Table.Conflicts
import ThreatHunt.Proofs.Table.NumberKeys
import ThreatHunt.Proofs.Table.TextKeys
import ThreatHunt.Proofs.Hunt.Merged
import ThreatHunt.Proofs.Storage.Documents
import ThreatHunt.Proofs.Storage.Frames
import ThreatHunt.Proofs.Hunt.Created
import ThreatHunt.Proofs.Table.RecordTypes
import ThreatHunt.Proofs.Pattern.Refused
import ThreatHunt.Proofs.Hunt.Projected
import ThreatHunt.Proofs.Time.Windows
import ThreatHunt.Proofs.Hunt.Filtered
import ThreatHunt.Proofs.Hunt.Applied
import ThreatHunt.Proofs.Hunt.LetterCase
import ThreatHunt.Proofs.Fetch.Accounting
import ThreatHunt.Proofs.Hunt.Connecting
