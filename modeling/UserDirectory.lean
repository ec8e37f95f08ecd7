import UserDirectory.Session
import UserDirectory.Proofs.Entry.Gathering
import UserDirectory.Proofs.Filter.LetterCase
import UserDirectory.Proofs.Filter.Locality
import UserDirectory.Proofs.Listing
import UserDirectory.Proofs.Password.StoredForm
import UserDirectory.Proofs.Session.Integrity
import UserDirectory.Proofs.Session.Startup
import UserDirectory.Proofs.WritingBack
import UserDirectory.Proofs.Filter.Kinds
import UserDirectory.Proofs.Filter.Unfinished
import UserDirectory.Proofs.Filter.TooDeep
import UserDirectory.Proofs.Pattern.Occurrence
import UserDirectory.Proofs.Dn
import UserDirectory.Proofs.Regex.Order
import UserDirectory.Proofs.Session.Polling
import UserDirectory.Proofs.Users.Pruning
import UserDirectory.Proofs.Regex.Escapes
import UserDirectory.Proofs.Pattern.LiteralDot
import UserDirectory.Proofs.Filter.Calls
