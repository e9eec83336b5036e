import AeadEnvelope.Proofs.Outcome
import AeadEnvelope.Proofs.TagLength.Structure
import AeadEnvelope.Summary

/-!
# Summaries of tag/length wires

The summary of a wire is made of the packet that is read of it (`Summary.ofWire_eq_bind`), and
there is one exactly when the context of the packet, if it has one, has a canonical text
(`Summary.ofPacket_eq_ok_iff`).
-/
namespace AeadEnvelope

/-- A wire that is read starts with the version byte of a tag/length dialect. -/
theorem TagLength.exists_version_of_parse {wire : Bytes} {packet : TagLength.Packet}
    (read : TagLength.parse wire = .ok packet) :
    ∃ dialect body, dialect ≠ Dialect.varint ∧ wire = Dialect.versionByte dialect :: body := by
  cases wire with
  | nil => cases read
  | cons version body =>
    by_cases legacy : version = Dialect.legacy.versionByte
    · exact ⟨.legacy, body, by decide, by rw [legacy]⟩
    · by_cases current : version = Dialect.current.versionByte
      · exact ⟨.current, body, by decide, by rw [current]⟩
      · rw [TagLength.parse_unsupported legacy current body] at read
        cases read

namespace Summary

/-- The summary of a tag/length wire is that of the packet that is read of it. -/
theorem ofWire_eq_bind {dialect : Dialect} (tagged : dialect ≠ .varint) (body : Bytes) :
    ofWire (dialect.versionByte :: body) =
      (TagLength.parse (dialect.versionByte :: body)).bind fun packet =>
        ofPacket packet (dialect.versionByte :: body).length := by
  have detected : Dialect.detect (dialect.versionByte :: body) = .ok dialect :=
    Dialect.ofByte_versionByte dialect
  rw [ofWire, detected]
  cases dialect with
  | varint => exact absurd rfl tagged
  | legacy => rfl
  | current => rfl

/-- The summary of a wire that is read is that of its packet. -/
theorem ofWire_of_parse {wire : Bytes} {packet : TagLength.Packet}
    (read : TagLength.parse wire = .ok packet) : ofWire wire = ofPacket packet wire.length := by
  obtain ⟨dialect, body, tagged, rfl⟩ := TagLength.exists_version_of_parse read
  rw [ofWire_eq_bind tagged, read]
  rfl

/-- A packet has a summary exactly when its context, if there is one, has a canonical text. -/
theorem ofPacket_eq_ok_iff {packet : TagLength.Packet} {length : Nat} {summary : Summary} :
    ofPacket packet length = .ok summary ↔
      ∃ text, packet.envelope.context.mapM Context.canonical = .ok text ∧
        summary = {
          dialect := packet.dialect
          version := packet.dialect.versionByte
          hasContext := packet.envelope.context.isSome
          fingerprint := text.map fun canonical => AeadEnvelope.fingerprint (utf8 canonical)
          keys := packet.keys
          placeholders := (packet.envelope.context.map Context.placeholders).getD []
          ciphertextLength := packet.envelope.ciphertext.length
          totalLength := length } := by
  rw [ofPacket, Outcome.bind_eq_ok_iff]
  simp only [pure, Except.pure, Except.ok.injEq, @eq_comm _ summary]

end Summary

end AeadEnvelope
