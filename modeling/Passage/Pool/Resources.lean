import Passage.Buffer
import Passage.Hash.Hmac
import Passage.Pool.Lending

/- What the pools of this library lend: buffers, plain digests, keyed digests. -/
namespace Passage

instance : Reusable Buffer := ⟨Buffer.clear⟩

instance : Reusable Sha256.Stream := ⟨fun _ => .start⟩

instance : Reusable Hmac.Stream := ⟨Hmac.Stream.reset⟩

/-- One call on a digest in the making. -/
inductive Digesting where
  | absorb (piece : Bytes)
  | reset
  | finish
  deriving DecidableEq, Repr

instance : Callable Buffer Buffer.Op Buffer.Reply := ⟨Buffer.apply⟩

/-- Only `finish` answers with bytes. -/
instance : Callable Sha256.Stream Digesting (Option Bytes) where
  apply s
    | .absorb piece => (none, s.absorb piece)
    | .reset => (none, .start)
    | .finish => let (d, s) := s.finish; (some d, s)

instance : Callable Hmac.Stream Digesting (Option Bytes) where
  apply s
    | .absorb piece => (none, s.absorb piece)
    | .reset => (none, s.reset)
    | .finish => let (d, s) := s.finish; (some d, s)

end Passage
