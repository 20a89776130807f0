import LspRelay.Frame.Stream
import LspRelay.Main
import LspRelay.Proofs.Buffering
import LspRelay.Proofs.DocumentCopies
import LspRelay.Proofs.Relaying
import LspRelay.Proofs.LogMessages
import LspRelay.Proofs.Recovery
import LspRelay.Proofs.CanonicalFrames
import LspRelay.Proofs.Conservation
import LspRelay.Proofs.Chaining
import LspRelay.Proofs.DocumentHistory
import LspRelay.Proofs.Timeline
import LspRelay.Proofs.Refusals
import LspRelay.Proofs.FixedPoints
import LspRelay.Proofs.CommandLines
import LspRelay.Proofs.Supervision
import LspRelay.Proofs.Decisions
import LspRelay.Proofs.HeaderLines
import LspRelay.Proofs.Resumption
import LspRelay.Proofs.Draining
import LspRelay.Proofs.Recognition
import LspRelay.Proofs.UriSlot
import LspRelay.Proofs.FloatArithmetic
import LspRelay.Proofs.ShortestDigits
import LspRelay.Proofs.LiteralValues
import LspRelay.Proofs.KeptNumbers
