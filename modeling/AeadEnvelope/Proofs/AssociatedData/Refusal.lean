import AeadEnvelope.Proofs.AssociatedData.Canonicalization
import AeadEnvelope.Proofs.VarintFrame.Layout

/-!
# Why pairs are not bound

Pairs are refused for the fault of the first one that cannot be bound behind those before it
(`FirstRefused`), or together for their length (`Unbindable`), and for nothing else
(`canonicalize_eq_error_iff`). Main statements: higher limits keep all that was bound or opened, and
pairs that are too long together are bound as soon as the limit is their length
(`canonicalize_limits`); and in another order the same pairs are bound alike, are too long alike, or
have one among them that is refused in either order (`canonicalize_perm`).
-/
namespace AeadEnvelope.AssociatedData

variable {limits higher : Limits} {keys others : List String} {pair : String × String}
  {pairs left right : List (String × String)} {given : Option (List (String × String))}
  {fault : Fault}

/-- Pairs of which each one can be bound behind those before it. -/
structure Compatible (limits : Limits) (pairs : List (String × String)) : Prop where
  /-- Each pair can be bound. -/
  admissible : ∀ pair ∈ pairs, Admissible limits pair
  /-- No normalized key occurs twice. -/
  distinct : (pairs.map normalizedKey).Nodup

/-- The fault of the first pair that cannot be bound behind those before it. -/
def FirstRefused (limits : Limits) : List (String × String) → Fault → Prop :=
  Outcome.FirstFault (Compatible limits) fun earlier pair =>
    PairRefused limits (earlier.map normalizedKey) pair

/-- The fault for which pairs cannot be bound together. -/
inductive Unbindable (limits : Limits) (pairs : List (String × String)) : Fault → Prop where
  /-- One of them cannot be bound behind those before it. -/
  | pair {fault : Fault} (first : FirstRefused limits pairs fault) : Unbindable limits pairs fault
  /-- Each of them can, but their bytes are too many. -/
  | whole (filled : pairs ≠ []) (compatible : Compatible limits pairs)
    (long : limits.whole < (bytesOf (normalized pairs)).length) :
    Unbindable limits pairs (.contextTooLarge (bytesOf (normalized pairs)).length limits.whole)

section Pairs

/-- The keys before a pair count as a set. -/
theorem PairRefused.congr (refused : PairRefused limits keys pair fault)
    (same : ∀ key, key ∈ keys ↔ key ∈ others) : PairRefused limits others pair fault := by
  cases refused with
  | empty vacant => exact .empty vacant
  | key filled long => exact .key filled long
  | value filled short long => exact .value filled short long
  | repeated admissible old => exact .repeated admissible ((same _).mp old)

/-- No fault of a pair is that of a whole which is too long. -/
theorem FirstRefused.ne_contextTooLarge (first : FirstRefused limits pairs fault)
    (size limit : Nat) : fault ≠ .contextTooLarge size limit := by
  cases first with
  | behind compatible refused => cases refused <;> exact nofun

/-- Pairs can be admitted from the start exactly if they are compatible. -/
theorem exists_foldlM_admitPair_iff :
    (∃ found, pairs.foldlM (admitPair limits) .empty = .ok found) ↔ Compatible limits pairs := by
  simp only [foldlM_admitPair_empty_eq_ok_iff]
  constructor
  · rintro ⟨found, admissible, distinct, -⟩
    exact ⟨admissible, distinct⟩
  · intro compatible
    exact ⟨dictionaryOf pairs compatible.distinct, compatible.admissible, compatible.distinct,
      ((inOrder_perm pairs).map kept).symm⟩

/-- Behind pairs that were admitted a pair is not admitted exactly for what it is refused for behind
their normalized keys. -/
theorem admitPair_eq_error_iff_of_foldlM {found : Dictionary (String × String)}
    (front : pairs.foldlM (admitPair limits) .empty = .ok found) :
    admitPair limits found pair = .error fault ↔
      PairRefused limits (pairs.map normalizedKey) pair fault := by
  obtain ⟨-, -, permuted⟩ := foldlM_admitPair_empty_eq_ok_iff.mp front
  have held : ∀ key, key ∈ found.entries.map (fun entry => entry.2.1) ↔
      key ∈ pairs.map normalizedKey := by
    intro key
    rw [← (permuted.map _).mem_iff, List.map_map]
    rfl
  rw [admitPair_eq_error_iff]
  exact ⟨fun refused => refused.congr held, fun refused => refused.congr fun key => (held key).symm⟩

/-- Pairs are admitted exactly if they are compatible, as the normalized pairs. -/
theorem admitted_eq_ok_iff_compatible {found : List (String × String)} :
    admitted limits pairs = .ok found ↔ Compatible limits pairs ∧ found = normalized pairs := by
  rw [admitted_eq_ok_iff, ← and_assoc]
  apply and_congr_left'
  constructor
  · exact fun each => ⟨each.1, each.2⟩
  · exact fun compatible => ⟨compatible.admissible, compatible.distinct⟩

/-- Pairs are not admitted exactly for the fault of the first one that is refused. -/
theorem admitted_eq_error_iff :
    admitted limits pairs = .error fault ↔ FirstRefused limits pairs fault := by
  have folded : pairs.foldlM (admitPair limits) .empty = .error fault ↔
      FirstRefused limits pairs fault :=
    Outcome.foldlM_eq_error_iff_firstFault (fun _ => exists_foldlM_admitPair_iff)
      fun _ _ front _ _ => admitPair_eq_error_iff_of_foldlM front
  rw [admitted, Outcome.bind_eq_error_iff, folded]
  constructor
  · intro failed
    rcases failed with first | ⟨found, -, impossible⟩
    · exact first
    · cases impossible
  · exact .inl

/-- Pairs are compatible, or one of them is the first that is refused. -/
theorem compatible_or_firstRefused (limits : Limits) (pairs : List (String × String)) :
    Compatible limits pairs ∨ ∃ fault, FirstRefused limits pairs fault := by
  cases outcome : admitted limits pairs with
  | ok found => exact .inl (admitted_eq_ok_iff_compatible.mp outcome).1
  | error fault => exact .inr ⟨fault, admitted_eq_error_iff.mp outcome⟩

/-- None of compatible pairs is refused. -/
theorem Compatible.not_firstRefused (compatible : Compatible limits pairs) :
    ¬ FirstRefused limits pairs fault := by
  intro first
  have bound := admitted_eq_ok_iff_compatible.mpr ⟨compatible, rfl⟩
  rw [admitted_eq_error_iff.mpr first] at bound
  cases bound

/-- Pairs are not bound exactly for what they are unbindable for. -/
theorem canonicalize_eq_error_iff :
    canonicalize limits given = .error fault ↔ Unbindable limits (given.getD []) fault := by
  rw [canonicalize, Outcome.bind_eq_error_iff]
  generalize given.getD [] = pairs
  constructor
  · intro failed
    rcases failed with refused | ⟨found, bound, long⟩
    · exact .pair (admitted_eq_error_iff.mp refused)
    · obtain ⟨compatible, rfl⟩ := admitted_eq_ok_iff_compatible.mp bound
      split at long
      · cases long
      · next filled =>
        split at long
        · next more =>
          rw [← length_bytesOf] at long more
          cases long
          exact .whole (mt normalized_eq_nil_iff.mpr filled) compatible more
        · cases long
  · intro unbindable
    cases unbindable with
    | pair first => exact .inl (admitted_eq_error_iff.mpr first)
    | whole filled compatible long =>
      right
      refine ⟨normalized pairs, admitted_eq_ok_iff_compatible.mpr ⟨compatible, rfl⟩, ?_⟩
      rw [length_bytesOf] at long ⊢
      rw [if_neg (mt normalized_eq_nil_iff.mp filled), if_pos long]
      rfl

end Pairs

section Limits

/-- What can be bound together can be so under higher limits. -/
theorem Canonical.of_le (canonical : Canonical limits pairs) (whole : limits.whole ≤ higher.whole)
    (part : limits.part ≤ higher.part) : Canonical higher pairs where
  admissible pair listed := by
    have here := canonical.admissible pair listed
    exact ⟨here.key, here.value, here.keyShort.trans part, here.valueShort.trans part⟩
  distinct := canonical.distinct
  short filled := (canonical.short filled).trans whole

/-- Pairs that are bound are so, with the same bytes, under higher limits. -/
theorem canonicalize_of_le {found : Option Bytes} (whole : limits.whole ≤ higher.whole)
    (part : limits.part ≤ higher.part) (bound : canonicalize limits given = .ok found) :
    canonicalize higher given = .ok found := by
  obtain ⟨canonical, rfl⟩ := canonicalize_eq_ok_iff.mp bound
  exact canonicalize_eq_ok_iff.mpr ⟨canonical.of_le whole part, rfl⟩

/-- Compatible pairs are bound as soon as the limit of the whole is the length of their bytes. -/
theorem Compatible.canonicalize_of_length_le (compatible : Compatible limits (given.getD []))
    (filled : given.getD [] ≠ []) {whole : Nat}
    (fits : (bytesOf (normalized (given.getD []))).length ≤ whole) :
    canonicalize ⟨whole, limits.part⟩ given =
      .ok (some (bytesOf (normalized (given.getD [])))) := by
  have each : ∀ pair ∈ given.getD [], Admissible ⟨whole, limits.part⟩ pair := by
    intro pair listed
    have here := compatible.admissible pair listed
    exact ⟨here.key, here.value, here.keyShort, here.valueShort⟩
  have bytes : boundBytes (given.getD []) = some (bytesOf (normalized (given.getD []))) :=
    if_neg filled
  rw [canonicalize_eq_ok_iff, bytes]
  exact ⟨⟨each, compatible.distinct, fun _ => fits⟩, rfl⟩

/-- What limits decide. Pairs are not bound exactly for the fault of the first one that is refused,
or for their length if none is; else they are bound, and their bytes have the length that was
foretold. The length that is reported of pairs which are too long was foretold in the same way, and
is that of the bytes they are bound as under any limit of the whole from there on. Higher limits
keep what was bound, byte for byte, and what was opened. -/
theorem canonicalize_limits (limits : Limits) (given : Option (List (String × String))) :
    (∀ fault, canonicalize limits given = .error fault ↔ Unbindable limits (given.getD []) fault) ∧
    ((∀ fault, ¬ Unbindable limits (given.getD []) fault) →
      canonicalize limits given = .ok (boundBytes (given.getD []))) ∧
    (∀ bytes, canonicalize limits given = .ok (some bytes) →
      bytes.length = lengthOf (normalized (given.getD []))) ∧
    (∀ size limit, canonicalize limits given = .error (.contextTooLarge size limit) →
      limit = limits.whole ∧ limit < size ∧ size = lengthOf (normalized (given.getD [])) ∧
        ∃ bytes : Bytes, bytes.length = size ∧
          ∀ whole, size ≤ whole → canonicalize ⟨whole, limits.part⟩ given = .ok (some bytes)) ∧
    (∀ higher : Limits, limits.whole ≤ higher.whole → limits.part ≤ higher.part →
      (∀ found, canonicalize limits given = .ok found → canonicalize higher given = .ok found) ∧
      ∀ wire frame, (VarintFrame.decode limits wire given).outcome = .ok frame →
        (VarintFrame.decode higher wire given).outcome = .ok frame) := by
  refine ⟨fun _ => canonicalize_eq_error_iff, ?_, ?_, ?_, ?_⟩
  · intro bindable
    cases outcome : canonicalize limits given with
    | ok found => rw [(canonicalize_eq_ok_iff.mp outcome).2]
    | error fault => exact absurd (canonicalize_eq_error_iff.mp outcome) (bindable fault)
  · intro bytes bound
    have same := (canonicalize_eq_ok_iff.mp bound).2
    unfold boundBytes at same
    split at same
    · cases same
    · rw [Option.some.inj same, length_bytesOf]
  · intro size limit failed
    have unbindable := canonicalize_eq_error_iff.mp failed
    cases unbindable with
    | pair first => exact absurd rfl (first.ne_contextTooLarge size limit)
    | whole filled compatible long =>
      exact ⟨rfl, long, length_bytesOf _, _, rfl,
        fun whole fits => compatible.canonicalize_of_length_le filled fits⟩
  · intro higher whole part
    refine ⟨fun found => canonicalize_of_le whole part, ?_⟩
    intro wire frame opened
    obtain ⟨read, bound⟩ := VarintFrame.decode_outcome_eq_ok_iff.mp opened
    exact VarintFrame.decode_outcome_eq_ok_iff.mpr ⟨read, canonicalize_of_le whole part bound⟩

/-- Of three pairs the second one has too long a key, and this is what they are refused for, though
the third one is empty and repeats a key; and what is bound and opened under limits that it just
meets is so under the standard ones. -/
theorem canonicalize_limits_met :
    canonicalize ⟨100, 2⟩ (some [("b", "1"), ("abc", "x"), ("B", "")]) =
      .error (.entryTooLong 3 2) ∧
    canonicalize .standard (some [("K", "v")]) = .ok (some [1, 1, 107, 1, 118]) ∧
    (VarintFrame.decode .standard [0xEE, 5, 1, 1, 107, 1, 118, 7] (some [("K", "v")])).outcome =
      .ok ⟨[7], some [1, 1, 107, 1, 118]⟩ := by
  have compatible : Compatible ⟨100, 2⟩ [("b", "1")] := {
    admissible := List.forall_mem_singleton.mpr
      ⟨by decide +kernel, by decide +kernel, by decide +kernel, by decide +kernel⟩
    distinct := List.nodup_singleton _ }
  have tooLong : PairRefused ⟨100, 2⟩ ["b"] ("abc", "x") (.entryTooLong 3 2) :=
    .key (by decide +kernel) (by decide +kernel)
  have first : FirstRefused ⟨100, 2⟩ [("b", "1"), ("abc", "x"), ("B", "")] (.entryTooLong 3 2) :=
    .behind compatible tooLong
  obtain ⟨refusedFor, -⟩ :=
    canonicalize_limits ⟨100, 2⟩ (some [("b", "1"), ("abc", "x"), ("B", "")])
  obtain ⟨-, -, -, -, raised⟩ := canonicalize_limits ⟨5, 1⟩ (some [("K", "v")])
  obtain ⟨bound, opened⟩ := raised .standard (by decide) (by decide)
  refine ⟨(refusedFor _).mpr (.pair first), bound _ ?_, opened _ _ ?_⟩
  · decide +kernel
  · decide +kernel

end Limits

section Order

/-- Compatible pairs are so in another order. -/
theorem Compatible.of_perm (compatible : Compatible limits left) (permuted : left.Perm right) :
    Compatible limits right where
  admissible pair listed := compatible.admissible pair (permuted.mem_iff.mpr listed)
  distinct := (permuted.map normalizedKey).nodup_iff.mp compatible.distinct

/-- Compatible pairs are bound, or are too long, alike in another order. -/
theorem Compatible.canonicalize_perm_eq (compatible : Compatible limits left)
    (permuted : left.Perm right) :
    canonicalize limits (some left) = canonicalize limits (some right) := by
  have front := admitted_eq_ok_iff_compatible.mpr ⟨compatible, rfl⟩
  have back := admitted_eq_ok_iff_compatible.mpr ⟨compatible.of_perm permuted, rfl⟩
  have same : normalized left = normalized right := normalized_of_perm compatible.distinct permuted
  rw [canonicalize, canonicalize, Option.getD_some, Option.getD_some, front, back, same]

/-- If a pair is refused first, one is in another order. -/
theorem FirstRefused.of_perm (first : FirstRefused limits left fault)
    (permuted : left.Perm right) : ∃ other, FirstRefused limits right other := by
  rcases compatible_or_firstRefused limits right with compatible | refused
  · exact absurd first (compatible.of_perm permuted.symm).not_firstRefused
  · exact refused

/-- The order in which pairs are given decides at most which of them is refused. In another order
they have the same bytes, or are too long by as much; and there can be a difference only if a pair
is refused in either order, as the first one that is need not be the same. -/
theorem canonicalize_perm (limits : Limits) {left right : List (String × String)}
    (permuted : left.Perm right) :
    (∀ found, canonicalize limits (some left) = .ok found ↔
      canonicalize limits (some right) = .ok found) ∧
    (∀ size limit, canonicalize limits (some left) = .error (.contextTooLarge size limit) ↔
      canonicalize limits (some right) = .error (.contextTooLarge size limit)) ∧
    (canonicalize limits (some left) ≠ canonicalize limits (some right) →
      ∃ fault other, FirstRefused limits left fault ∧ FirstRefused limits right other ∧
        canonicalize limits (some left) = .error fault ∧
        canonicalize limits (some right) = .error other) := by
  rcases compatible_or_firstRefused limits left with compatible | ⟨fault, first⟩
  · have same := compatible.canonicalize_perm_eq permuted
    rw [same]
    exact ⟨fun _ => .rfl, fun _ _ => .rfl, fun different => absurd rfl different⟩
  · obtain ⟨other, second⟩ := first.of_perm permuted
    have front : canonicalize limits (some left) = .error fault :=
      canonicalize_eq_error_iff.mpr (.pair first)
    have back : canonicalize limits (some right) = .error other :=
      canonicalize_eq_error_iff.mpr (.pair second)
    rw [front, back]
    refine ⟨fun _ => ⟨nofun, nofun⟩, ?_, fun _ => ⟨fault, other, first, second, rfl, rfl⟩⟩
    intro size limit
    constructor
    · intro same
      exact absurd (Except.error.inj same) (first.ne_contextTooLarge size limit)
    · intro same
      exact absurd (Except.error.inj same) (second.ne_contextTooLarge size limit)

/-- Two pairs have the same bytes in either order, and each of two that are refused is what the
refusal is about where it comes first. -/
theorem canonicalize_perm_swapped :
    canonicalize .standard (some [("b", "1"), ("a", "2")]) =
      .ok (some [2, 1, 97, 1, 50, 1, 98, 1, 49]) ∧
    canonicalize ⟨100, 1⟩ (some [("a", ""), ("bc", "1")]) = .error (.emptyEntry "a") ∧
    canonicalize ⟨100, 1⟩ (some [("bc", "1"), ("a", "")]) = .error (.entryTooLong 2 1) ∧
    ∃ fault, FirstRefused ⟨100, 1⟩ [("a", ""), ("bc", "1")] fault := by
  have ascending : canonicalize .standard (some [("a", "2"), ("b", "1")]) =
      .ok (some [2, 1, 97, 1, 50, 1, 98, 1, 49]) := by decide +kernel
  have front : canonicalize ⟨100, 1⟩ (some [("a", ""), ("bc", "1")]) =
      .error (.emptyEntry "a") := by decide +kernel
  have back : canonicalize ⟨100, 1⟩ (some [("bc", "1"), ("a", "")]) =
      .error (.entryTooLong 2 1) := by decide +kernel
  have different : canonicalize ⟨100, 1⟩ (some [("a", ""), ("bc", "1")]) ≠
      canonicalize ⟨100, 1⟩ (some [("bc", "1"), ("a", "")]) := by
    rw [front, back]
    decide
  obtain ⟨sameBytes, -⟩ := canonicalize_perm .standard (.swap ("a", "2") ("b", "1") [])
  obtain ⟨-, -, refusals⟩ := canonicalize_perm ⟨100, 1⟩ (.swap ("bc", "1") ("a", "") [])
  obtain ⟨fault, -, first, -⟩ := refusals different
  exact ⟨(sameBytes _).mpr ascending, front, back, fault, first⟩

end Order

end AeadEnvelope.AssociatedData
