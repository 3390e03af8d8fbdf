import Passage.Config.Load
import Passage.Engine.Session
import Passage.Log.Settings
import Passage.Proofs.TokenCheck
import Passage.Proofs.SolutionCheck
import Passage.Proofs.Answers
import Passage.Proofs.Sessions
import Passage.Proofs.Gates
import Passage.Proofs.TokenText
import Passage.Proofs.Lifetimes
import Passage.Proofs.Separation
import Passage.Proofs.Exchange
import Passage.Proofs.Crossing
import Passage.Proofs.Malleability
import Passage.Proofs.Renewal
import Passage.Proofs.Thresholds
import Passage.Proofs.Isolation
import Passage.Proofs.Honoured
import Passage.Proofs.Loading
import Passage.Proofs.Replay
import Passage.Proofs.Responses
import Passage.Proofs.Counting
import Passage.Proofs.NameTables
import Passage.Proofs.Routing
import Passage.Proofs.Building
import Passage.Proofs.ByteQueue
import Passage.Proofs.ExactTime
import Passage.Proofs.FirstFailure
import Passage.Proofs.CutTokens
import Passage.Proofs.Advances
import Passage.Proofs.Spellings
import Passage.Proofs.Admission
import Passage.Proofs.Inventory
import Passage.Proofs.Sextets
import Passage.Proofs.Quads
import Passage.Proofs.SecretTexts
import Passage.Proofs.HexFields
import Passage.Proofs.Readings
