import AeadEnvelope.Audit
import AeadEnvelope.Context.Canonical

/-!
# Agreement of contexts

The context of a packet is compared with the one that the caller expects. Absence agrees with
absence only. Two contexts agree when their canonical texts are equal after the expected values
were left out at the placeholders of the packet, so a placeholder accepts any value of its key
but not the lack of the key. A context without a canonical text agrees with none.
-/
namespace AeadEnvelope.Context

/-- The context with values left out wherever the template has a placeholder. -/
def shapedLike (context template : Context) : Context :=
  context.map fun key value => if template.values.find? key = some none then none else value

/-- Compare two contexts by their canonical texts. -/
def compare (packet expected : Context) : Audited Unit :=
  match packet.canonical, (expected.shapedLike packet).canonical with
  | .ok ours, .ok theirs =>
    ⟨if ours = theirs then .ok () else .error .contextMismatch, []⟩
  | .error fault, _ => ⟨.error .contextMismatch, [.incomparable fault]⟩
  | .ok _, .error fault => ⟨.error .contextMismatch, [.incomparable fault]⟩

/-- Check the context of a packet, if it has one, against the expected one, if there is one. -/
def verify (packet expected : Option Context) : Audited Unit :=
  match packet, expected with
  | none, none => ⟨.ok (), []⟩
  | some ours, some theirs => ours.compare theirs
  | _, _ => ⟨.error .contextMismatch, []⟩

end AeadEnvelope.Context
