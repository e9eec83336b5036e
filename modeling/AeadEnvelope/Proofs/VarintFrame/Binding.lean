import AeadEnvelope.Proofs.VarintFrame.Layout

/-!
# Which pairs open the wire of which

What is written of a frame is read back as it (`parse_encode`), so which pairs open a wire that was
bound to others is a matter of their associated data alone. Main statement: pairs open the wire that
is bound to others exactly if they can be bound themselves and their normalized pairs, in the order
of the keys as they were given, are the same (`decode_encodePairs`).
-/
namespace AeadEnvelope.VarintFrame

open AssociatedData (boundBytes canonicalize normalized)

variable {limits : AssociatedData.Limits} {pairs expected : Option (List (String × String))}
  {bound : Option Bytes}

/-- A frame without empty associated data is read back from what is written of it. -/
theorem parse_encode {frame : VarintFrame} (filled : frame.associated ≠ some [])
    (bounded : (frame.associated.getD []).length < UInt64.size) :
    parse (encode frame) = .ok frame := by
  have held : (layoutOf frame).frame = frame := (Layout.frame_eq_iff filled).mpr ⟨rfl, rfl⟩
  rw [← wire_layoutOf, parse_wire (fits_layoutOf bounded), held]

/-- A wire is written of pairs exactly if they can be bound, with their associated data. -/
theorem encodePairs_eq_ok_iff {ciphertext wire : Bytes} :
    encodePairs ciphertext pairs = .ok wire ↔
      ∃ bound, canonicalize .standard pairs = .ok bound ∧ wire = encode ⟨ciphertext, bound⟩ := by
  simp only [encodePairs, Outcome.bind_eq_ok_iff, pure, Except.pure, Except.ok.injEq,
    @eq_comm _ wire]

/-- Associated data of pairs are not empty where they are there, and no longer than their limit. -/
theorem length_of_canonicalize (canonical : canonicalize limits pairs = .ok bound) :
    bound ≠ some [] ∧ (bound.getD []).length ≤ limits.whole := by
  obtain ⟨⟨-, -, short⟩, rfl⟩ := AssociatedData.canonicalize_eq_ok_iff.mp canonical
  refine ⟨AssociatedData.boundBytes_ne_some_nil, ?_⟩
  by_cases empty : pairs.getD [] = []
  · rw [boundBytes, if_pos empty]
    exact Nat.zero_le _
  · rw [boundBytes, if_neg empty]
    exact short empty

/-- Pairs have the associated data of others exactly if they can be bound and their normalized pairs
are the same. -/
theorem canonicalize_eq_iff_normalized (canonical : canonicalize limits pairs = .ok bound) :
    canonicalize limits expected = .ok bound ↔
      (∃ other, canonicalize limits expected = .ok other) ∧
        normalized (expected.getD []) = normalized (pairs.getD []) := by
  obtain ⟨-, rfl⟩ := AssociatedData.canonicalize_eq_ok_iff.mp canonical
  constructor
  · intro same
    have equal := (AssociatedData.canonicalize_eq_ok_iff.mp same).2
    exact ⟨⟨_, same⟩, (AssociatedData.boundBytes_eq_iff.mp equal).symm⟩
  · rintro ⟨⟨other, read⟩, same⟩
    obtain ⟨-, rfl⟩ := AssociatedData.canonicalize_eq_ok_iff.mp read
    rw [read, AssociatedData.boundBytes_eq_iff.mpr same]

/-- Pairs in another order have the same associated data. -/
theorem canonicalize_of_perm (canonical : canonicalize limits pairs = .ok bound)
    (permuted : (expected.getD []).Perm (pairs.getD [])) :
    canonicalize limits expected = .ok bound := by
  obtain ⟨together, rfl⟩ := AssociatedData.canonicalize_eq_ok_iff.mp canonical
  obtain ⟨others, same⟩ := together.of_perm permuted.symm
  exact AssociatedData.canonicalize_eq_ok_iff.mpr ⟨others, same.symm⟩

/-- There are no associated data exactly where there is no pair. -/
theorem canonicalize_eq_none_iff : canonicalize limits pairs = .ok none ↔ pairs.getD [] = [] := by
  rw [AssociatedData.canonicalize_eq_ok_iff, eq_comm, AssociatedData.boundBytes_eq_none_iff]
  constructor
  · exact And.right
  · intro empty
    rw [empty]
    exact ⟨⟨nofun, List.nodup_nil, fun filled => absurd rfl filled⟩, rfl⟩

/-- Where the associated data are none or empty there is no pair. -/
theorem eq_nil_of_bound_empty (canonical : canonicalize limits pairs = .ok bound)
    (empty : bound.getD [] = []) : pairs.getD [] = [] := by
  obtain ⟨filled, -⟩ := length_of_canonicalize canonical
  cases bound with
  | none => exact canonicalize_eq_none_iff.mp canonical
  | some bytes => exact absurd (congrArg some empty) filled

/-- Pairs that can be bound have the same associated data exactly if their normalized pairs, in the
order of the keys as they were given, are the same; without a pair there are none, and with one
they are not empty. So a wire
that is written of pairs is opened under others exactly if these can be bound and have the same
normalized pairs, and is a mismatch if not; in particular it is opened under the same pairs in any
order. -/
theorem decode_encodePairs :
    (∀ left right leftBound rightBound, canonicalize .standard left = .ok leftBound →
      canonicalize .standard right = .ok rightBound →
      (leftBound = rightBound ↔ normalized (left.getD []) = normalized (right.getD []))) ∧
    (∀ pairs, (pairs.getD [] = [] → canonicalize .standard pairs = .ok none) ∧
      ∀ bound, canonicalize .standard pairs = .ok bound → bound.getD [] = [] →
        pairs.getD [] = []) ∧
    (∀ ciphertext pairs bound, canonicalize .standard pairs = .ok bound →
      ∃ wire, encodePairs ciphertext pairs = .ok wire ∧
        ∀ expected,
          (((∃ other, canonicalize .standard expected = .ok other) ∧
              normalized (expected.getD []) = normalized (pairs.getD [])) →
            (decode .standard wire expected).outcome = .ok ⟨ciphertext, bound⟩) ∧
          (¬ ((∃ other, canonicalize .standard expected = .ok other) ∧
              normalized (expected.getD []) = normalized (pairs.getD [])) →
            (decode .standard wire expected).outcome = .error .contextMismatch) ∧
          ((expected.getD []).Perm (pairs.getD []) →
            (decode .standard wire expected).outcome = .ok ⟨ciphertext, bound⟩)) := by
  refine ⟨?_, fun pairs => ⟨canonicalize_eq_none_iff.mpr, fun bound => eq_nil_of_bound_empty⟩, ?_⟩
  · intro left right leftBound rightBound leftBinds rightBinds
    obtain ⟨-, rfl⟩ := AssociatedData.canonicalize_eq_ok_iff.mp leftBinds
    obtain ⟨-, rfl⟩ := AssociatedData.canonicalize_eq_ok_iff.mp rightBinds
    exact AssociatedData.boundBytes_eq_iff
  · intro ciphertext pairs bound canonical
    obtain ⟨filled, short⟩ := length_of_canonicalize canonical
    -- Under the standard limits the length of the associated data fits in 64 bits by far.
    have bounded : (bound.getD []).length < UInt64.size := Nat.lt_of_le_of_lt short (by decide)
    have read : parse (encode ⟨ciphertext, bound⟩) = .ok ⟨ciphertext, bound⟩ :=
      parse_encode filled bounded
    have opens : ∀ expected, canonicalize .standard expected = .ok bound →
        (decode .standard (encode ⟨ciphertext, bound⟩) expected).outcome =
          .ok ⟨ciphertext, bound⟩ :=
      fun expected same => decode_outcome_eq_ok_iff.mpr ⟨read, same⟩
    refine ⟨_, encodePairs_eq_ok_iff.mpr ⟨bound, canonical, rfl⟩, fun expected => ⟨?_, ?_, ?_⟩⟩
    · intro agreed
      exact opens expected ((canonicalize_eq_iff_normalized canonical).mpr agreed)
    · intro apart
      rcases decode_outcome_of_parse_ok .standard expected read with ⟨same, -⟩ | ⟨-, mismatch⟩
      · exact absurd ((canonicalize_eq_iff_normalized canonical).mp same) apart
      · exact mismatch
    · intro permuted
      exact opens expected (canonicalize_of_perm canonical permuted)

/-- Under other spellings of its keys a list of pairs is opened if their order stays the same, and
is a mismatch if a capital letter puts a key before the others. -/
theorem decode_encodePairs_respelled :
    ∃ wire, encodePairs [7] (some [("b-", "X"), ("a", "y")]) = .ok wire ∧
      (decode .standard wire (some [("A", "Y"), ("B", " x")])).outcome =
        .ok ⟨[7], some [2, 1, 97, 1, 121, 1, 98, 1, 120]⟩ ∧
      (decode .standard wire (some [("B", "x"), ("a", "y")])).outcome =
        .error .contextMismatch := by
  have canonical : canonicalize .standard (some [("b-", "X"), ("a", "y")]) =
      .ok (some [2, 1, 97, 1, 121, 1, 98, 1, 120]) := by decide +kernel
  have binds : canonicalize .standard (some [("A", "Y"), ("B", " x")]) =
      .ok (some [2, 1, 97, 1, 121, 1, 98, 1, 120]) := by decide +kernel
  have same : normalized [("A", "Y"), ("B", " x")] = normalized [("b-", "X"), ("a", "y")] := by
    decide +kernel
  have apart : normalized [("B", "x"), ("a", "y")] ≠ normalized [("b-", "X"), ("a", "y")] := by
    decide +kernel
  obtain ⟨-, -, opening⟩ := decode_encodePairs
  obtain ⟨wire, written, under⟩ := opening [7] _ _ canonical
  obtain ⟨opened, -, -⟩ := under (some [("A", "Y"), ("B", " x")])
  obtain ⟨-, refused, -⟩ := under (some [("B", "x"), ("a", "y")])
  exact ⟨wire, written, opened ⟨⟨_, binds⟩, same⟩, refused fun agreed => apart agreed.2⟩

end AeadEnvelope.VarintFrame
