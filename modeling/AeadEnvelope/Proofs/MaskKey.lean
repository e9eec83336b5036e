import AeadEnvelope.Binary.BigEndian
import AeadEnvelope.MaskKey
import AeadEnvelope.Proofs.Context.CanonicalText

/-!
# What a mask names

A mask is a set of places of bits, and each key of the table has a place of its own. A mask is
resolved exactly when each of its bits is that of a key other than the undefined one
(`ofMask_eq_ok_iff`), and the mask of a list of keys names those keys, however often and in
whatever order they are listed (`named_maskOf`).
-/
namespace AeadEnvelope.MaskKey

/-- Every bit of the mask is that of a key, and not of the undefined one. -/
def Resolvable (mask : Nat) : Prop :=
  ∀ place, mask.testBit place = true → ∃ key, key ≠ undefined ∧ key.index = place

/-- A text is the name of a key whose bit the mask has. -/
def Named (mask : Nat) (name : String) : Prop :=
  ∃ key : MaskKey, mask.testBit key.index = true ∧ key.name = name

/-- The keys whose bits a mask has, in the order of the table. -/
def named (mask : Nat) : List MaskKey := all.filter fun key => mask.testBit key.index

/-- The table lists every key. -/
theorem mem_all (key : MaskKey) : key ∈ all := by
  cases key <;> decide

/-- A key is named exactly when the mask has its bit. -/
theorem mem_named_iff {mask : Nat} {key : MaskKey} :
    key ∈ named mask ↔ mask.testBit key.index = true := by
  rw [named, List.mem_filter]
  exact and_iff_right (mem_all key)

/-- Every bit stands for one key. -/
theorem eq_of_index {left right : MaskKey} (same : left.index = right.index) : left = right := by
  revert same
  cases left <;> cases right <;> decide

/-- Every name can be a key of a context. -/
theorem isKey_name (key : MaskKey) : IsKey key.name := by
  cases key <;> decide +kernel

/-- No name has a separator. -/
theorem hasSeparator_name (key : MaskKey) : Context.hasSeparator key.name = false := by
  cases key <;> decide

/-- The names of a mask's keys are distinct. -/
theorem nodup_names (mask : Nat) : ((named mask).map name).Nodup := by
  have table : (all.map name).Nodup := by decide
  have kept : (named mask).Sublist all := List.filter_sublist
  exact (kept.map name).nodup table

/-- The bit of a key is at its place alone. -/
theorem testBit_bit (key : MaskKey) (place : Nat) :
    key.bit.testBit place = decide (key.index = place) := by
  rw [bit, Nat.one_shiftLeft, Nat.testBit_two_pow]

/-- A mask of keys has the bits of those keys, and of no others. -/
theorem testBit_maskOf {keys : List MaskKey} {place : Nat} :
    (maskOf keys).testBit place = true ↔ ∃ key ∈ keys, key.index = place := by
  suffices started : ∀ start : Nat,
      (keys.foldl (fun mask key => mask ||| key.bit) start).testBit place = true ↔
        start.testBit place = true ∨ ∃ key ∈ keys, key.index = place by
    have fromZero := started 0
    rw [Nat.zero_testBit] at fromZero
    unfold maskOf
    simpa using fromZero
  induction keys with
  | nil => simp
  | cons key later step =>
    intro start
    rw [List.foldl_cons, step, Nat.testBit_or, testBit_bit, Bool.or_eq_true, decide_eq_true_eq,
      or_assoc]
    simp only [List.mem_cons, exists_eq_or_imp]

/-- The mask of a list of keys has the bits of the keys of the list. -/
theorem testBit_index_maskOf {keys : List MaskKey} {key : MaskKey} :
    (maskOf keys).testBit key.index = true ↔ key ∈ keys := by
  rw [testBit_maskOf]
  constructor
  · rintro ⟨other, held, same⟩
    exact eq_of_index same ▸ held
  · intro held
    exact ⟨key, held, rfl⟩

/-- The mask of a list of keys names exactly the keys of the list, in the order of the table. -/
theorem named_maskOf (keys : List MaskKey) : named (maskOf keys) = all.filter (· ∈ keys) := by
  unfold named
  apply List.filter_congr
  intro key _
  rw [Bool.eq_iff_iff, testBit_index_maskOf, decide_eq_true_eq]

/-- A text is the name of a key of the mask of a list exactly if it is that of a key of the list. -/
theorem named_maskOf_iff {keys : List MaskKey} {name : String} :
    Named (maskOf keys) name ↔ ∃ key ∈ keys, key.name = name := by
  unfold Named
  simp only [testBit_index_maskOf]

/-- Only the empty list of keys has the empty mask. -/
theorem maskOf_eq_zero_iff {keys : List MaskKey} : maskOf keys = 0 ↔ keys = [] := by
  constructor
  · intro zero
    apply List.eq_nil_iff_forall_not_mem.mpr
    intro key held
    have set := testBit_index_maskOf.mpr held
    rw [zero, Nat.zero_testBit] at set
    cases set
  · rintro rfl
    rfl

/-- The mask of keys without the undefined one can be resolved. -/
theorem resolvable_maskOf {keys : List MaskKey} (defined : undefined ∉ keys) :
    Resolvable (maskOf keys) := by
  intro place set
  obtain ⟨key, held, same⟩ := testBit_maskOf.mp set
  have other : key ≠ undefined := fun equal => defined (equal ▸ held)
  exact ⟨key, other, same⟩

/-- A mask can be resolved exactly when it has known bits only. -/
theorem resolvable_iff_and_knownBits {mask : Nat} :
    Resolvable mask ↔ mask &&& knownBits = mask := by
  have known : ∀ place, knownBits.testBit place = true ↔
      ∃ key : MaskKey, key ≠ undefined ∧ key.index = place := by
    intro place
    rw [knownBits, testBit_maskOf]
    simp only [List.mem_filter, mem_all, true_and, decide_eq_true_eq]
  constructor
  · intro resolvable
    apply Nat.eq_of_testBit_eq
    intro place
    rw [Nat.testBit_and]
    by_cases set : mask.testBit place = true
    · have found := (known place).mpr (resolvable place set)
      rw [set, found]
      rfl
    · rw [Bool.not_eq_true] at set
      rw [set, Bool.false_and]
  · intro same place set
    have both := congrArg (fun bits => Nat.testBit bits place) same
    simp only [Nat.testBit_and, set, Bool.true_and] at both
    exact (known place).mp both

/-- A mask is resolved into the keys that it names exactly when it can be. -/
theorem ofMask_eq_ok_iff {mask : Nat} {keys : List MaskKey} :
    ofMask mask = .ok keys ↔ Resolvable mask ∧ named mask = keys := by
  rw [resolvable_iff_and_knownBits]
  unfold ofMask
  by_cases known : mask &&& knownBits = mask
  · rw [if_pos known, Except.ok.injEq]
    exact (and_iff_right known).symm
  · rw [if_neg known]
    simp [known]

/-- A mask that is not resolved is malformed. -/
theorem ofMask_malformed {mask : Nat} {fault : Fault} (failed : ofMask mask = .error fault) :
    ∃ cause, fault = .malformed cause := by
  unfold ofMask at failed
  split at failed
  · cases failed
  · cases failed
    exact ⟨_, rfl⟩

/-- A mask that can be resolved fits its four bytes. -/
theorem Resolvable.lt_capacity {mask : Nat} (resolvable : Resolvable mask) : mask < capacity 4 := by
  have bounded : mask &&& knownBits ≤ knownBits := Nat.and_le_right
  rw [resolvable_iff_and_knownBits.mp resolvable] at bounded
  have known : knownBits < capacity 4 := by decide
  omega

/-- Only the empty mask names no keys. -/
theorem Resolvable.named_eq_nil_iff {mask : Nat} (resolvable : Resolvable mask) :
    named mask = [] ↔ mask = 0 := by
  constructor
  · intro none
    apply Nat.eq_of_testBit_eq
    intro place
    rw [Nat.zero_testBit]
    by_cases set : mask.testBit place = true
    · obtain ⟨key, -, rfl⟩ := resolvable place set
      have held := mem_named_iff.mpr set
      rw [none] at held
      cases held
    · exact Bool.not_eq_true _ ▸ set
  · rintro rfl
    rfl

end AeadEnvelope.MaskKey
