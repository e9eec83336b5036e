import AeadEnvelope.Proofs.ByteOrder
import AeadEnvelope.Proofs.Context.CanonicalText
import Mathlib.Data.List.Sort
import Mathlib.Data.Prod.Lex

/-!
# The order of the canonical text

Entries are sorted by their order texts, and by their keys where these are the same. Both are
compared byte by byte (`Before`), and as every key occurs once no two entries stand at the same
place (`pairwise_ordered`). Main statement: the canonical text joins the entries in that order, and
where a separator stands in some of them, the keys of all of these are reported in it
(`canonical_order`).
-/
namespace AeadEnvelope.Context

variable {left right entry : String × Option String}
  {entries others : List (String × Option String)}

/-- The bytes by which an entry is put in order: those of the order text, and then of the key. -/
def orderBytes (entry : String × Option String) : Bytes × Bytes :=
  (utf8 (orderText entry), utf8 entry.1)

/-- The bytes of an entry come before those of another one. -/
def Before (left right : String × Option String) : Prop :=
  Prod.Lex BytesBefore BytesBefore (orderBytes left) (orderBytes right)

/-- A separator stands in the key of an entry, or in its value if it has one. -/
def HoldsSeparator (entry : String × Option String) : Prop :=
  ∃ text ∈ entry.1 :: entry.2.toList,
    valueSeparator ∈ text.toList ∨ entrySeparator ∈ text.toList

/-- Whether a separator stands in an entry is found by looking through its texts. -/
instance : DecidablePred HoldsSeparator := fun entry =>
  inferInstanceAs (Decidable (∃ text ∈ entry.1 :: entry.2.toList,
    valueSeparator ∈ text.toList ∨ entrySeparator ∈ text.toList))

/-- An entry precedes another one if its order text is less, or is the same and its key is not
greater. -/
theorem precedes_iff : precedes left right = true ↔
    orderText left < orderText right ∨ orderText left = orderText right ∧ left.1 ≤ right.1 :=
  decide_eq_true_iff

/-- Of two entries one precedes the other. -/
instance : Std.Total fun left right => precedes left right = true where
  total left right := by
    rw [precedes_iff, precedes_iff]
    by_cases same : orderText left = orderText right
    · exact (String.le_total left.1 right.1).imp (fun upTo => .inr ⟨same, upTo⟩)
        fun upTo => .inr ⟨same.symm, upTo⟩
    · rcases String.le_total (orderText left) (orderText right) with upTo | upTo
      · exact .inl (.inl (Std.lt_of_le_of_ne upTo same))
      · exact .inr (.inl (Std.lt_of_le_of_ne upTo (Ne.symm same)))

/-- What precedes an entry precedes what comes behind it. -/
instance : IsTrans (String × Option String) fun left right => precedes left right = true where
  trans first second third low high := by
    rw [precedes_iff] at low high ⊢
    rcases low with less | ⟨same, upTo⟩
    · left
      rcases high with more | ⟨equal, -⟩
      · exact String.lt_trans less more
      · exact equal ▸ less
    · rcases high with more | ⟨equal, further⟩
      · exact .inl (same ▸ more)
      · exact .inr ⟨same.trans equal, String.le_trans upTo further⟩

/-- An entry comes before another one exactly if its order text is less, or is the same and its key
is less. -/
theorem before_iff : Before left right ↔
    orderText left < orderText right ∨ orderText left = orderText right ∧ left.1 < right.1 := by
  have same : utf8 (orderText left) = utf8 (orderText right) ↔ orderText left = orderText right :=
    ⟨utf8_injective, congrArg utf8⟩
  rw [Before, Prod.lex_def, orderBytes, orderBytes, lex_utf8_iff, lex_utf8_iff, same]

/-- Which entry comes first is found by comparing texts. -/
instance : DecidableRel Before := fun _ _ => decidable_of_iff _ before_iff.symm

/-- Of two entries only one comes before the other. -/
theorem Before.asymm (before : Before left right) : ¬ Before right left := by
  intro after
  rw [before_iff] at before after
  rcases before with less | ⟨same, less⟩
  · rcases after with more | ⟨equal, -⟩
    · exact String.lt_asymm less more
    · rw [equal] at less
      exact String.lt_irrefl _ less
  · rcases after with more | ⟨-, more⟩
    · rw [same] at more
      exact String.lt_irrefl _ more
    · exact String.lt_asymm less more

/-- An entry that precedes one with another key comes before it. -/
theorem before_of_precedes (ahead : precedes left right = true) (apart : left.1 ≠ right.1) :
    Before left right := by
  rw [before_iff]
  rcases precedes_iff.mp ahead with less | ⟨same, upTo⟩
  · exact .inl less
  · exact .inr ⟨same, Std.lt_of_le_of_ne upTo apart⟩

/-- There is one order only in which every entry comes before those behind it. -/
theorem eq_of_pairwise_before (permuted : entries.Perm others)
    (ascending : entries.Pairwise Before) (otherAscending : others.Pairwise Before) :
    entries = others := by
  apply permuted.eq_of_pairwise _ ascending otherAscending
  intro left right _ _ before after
  exact absurd after before.asymm

/-- An entry is put among others as an insertion sort does it. -/
theorem arrange_eq_orderedInsert (entry : String × Option String)
    (entries : List (String × Option String)) :
    arrange entry entries =
      entries.orderedInsert (fun left right => precedes left right = true) entry := by
  induction entries with
  | nil => rfl
  | cons head later step => rw [arrange, List.orderedInsert_cons, step]

/-- The entries of a context are put in order by an insertion sort. -/
theorem ordered_eq_insertionSort (context : Context) :
    context.ordered =
      context.entries.insertionSort fun left right => precedes left right = true := by
  unfold ordered
  induction context.entries with
  | nil => rfl
  | cons entry later step =>
    rw [List.foldr_cons, step, List.insertionSort_cons, arrange_eq_orderedInsert]

/-- In the order of the canonical text every entry comes before those behind it. -/
theorem pairwise_ordered (context : Context) : context.ordered.Pairwise Before := by
  have sorted : context.ordered.Pairwise fun left right => precedes left right = true := by
    rw [ordered_eq_insertionSort]
    exact List.pairwise_insertionSort _ _
  have apart : context.ordered.Pairwise fun left right => left.1 ≠ right.1 :=
    List.pairwise_map.mp context.nodup_keys_ordered
  apply (sorted.and apart).imp
  intro left right both
  exact before_of_precedes both.1 both.2

/-- An entry has no place in a canonical text exactly if a separator stands in it. -/
theorem offends_iff_holdsSeparator : offends entry = true ↔ HoldsSeparator entry := by
  have marked : ∀ text, hasSeparator text = true ↔
      valueSeparator ∈ text.toList ∨ entrySeparator ∈ text.toList := by
    intro text
    rw [← not_iff_not, Bool.not_eq_true, hasSeparator_eq_false_iff, not_or]
  rw [offends_eq_true_iff, HoldsSeparator, marked]
  simp [marked]

/-- The entries at fault are those that a separator stands in. -/
theorem offenders_eq (context : Context) : context.offenders =
    (context.ordered.filter fun entry => HoldsSeparator entry).map Prod.fst := by
  have same : ∀ entry, offends entry = decide (HoldsSeparator entry) := by
    intro entry
    rw [Bool.eq_iff_iff, offends_iff_holdsSeparator, decide_eq_true_iff]
  rw [offenders, funext same]

/-- A context in which a longer key comes first in the canonical text, as a capital letter of a
value counts there in lower case. -/
def crossedContext : Context where
  values := ⟨[("x", some "B"), ("xa", none)], by decide⟩
  named := by decide +kernel

/-- The order of the canonical text, and all that is at fault. There is one order in which the
entries of a context stand, each of them once, strictly ascending in the bytes of their order texts
and then of their keys. If a separator stands in none of them they are written in that order, joined
by the entry separator; and if one does, the keys of all entries with one are reported in that order,
each once. It need not be the order of the keys. -/
theorem canonical_order :
    (∀ context : Context, ∃ order : List (String × Option String),
      order.Perm context.entries ∧ order.Pairwise Before ∧
      (∀ other : List (String × Option String),
        other.Perm context.entries → other.Pairwise Before → other = order) ∧
      (order.map Prod.fst).Nodup ∧
      context.canonical =
        if ∃ entry ∈ context.entries, HoldsSeparator entry then
          .error (.forbiddenCharacter
            ((order.filter fun entry => HoldsSeparator entry).map Prod.fst))
        else .ok (entrySeparator.toString.intercalate (order.map entryText))) ∧
    ∃ context : Context, context.canonical = .ok "xa|x=B" ∧ context.keys = ["x", "xa"] := by
  refine ⟨?_, crossedContext, by decide +kernel, rfl⟩
  intro context
  have permuted := context.ordered_perm
  have ascending := context.pairwise_ordered
  refine ⟨context.ordered, permuted, ascending, ?_, context.nodup_keys_ordered, ?_⟩
  · intro other others otherAscending
    exact eq_of_pairwise_before (others.trans permuted.symm) otherAscending ascending
  · split
    · next found =>
      obtain ⟨entry, listed, held⟩ := found
      rw [← offenders_eq, canonical_eq_error_iff]
      refine ⟨?_, rfl⟩
      intro faultless
      have placed := offenders_eq_nil_iff.mp faultless entry listed
      rw [offends_iff_holdsSeparator.mpr held] at placed
      cases placed
    · next clear =>
      rw [canonical_eq_ok_iff]
      refine ⟨?_, rfl⟩
      intro entry listed
      rw [← Bool.not_eq_true, offends_iff_holdsSeparator]
      exact fun held => clear ⟨entry, listed, held⟩

/-- A context with a separator in two of its entries, whose keys are not in the order of these. -/
def separatedContext : Context where
  values := ⟨[("x", some "B=b"), ("xa|", none), ("y", some "")], by decide⟩
  named := by decide +kernel

/-- The keys of both entries are reported, the longer one first. -/
theorem canonical_order_separated :
    [("xa|", none), ("x", some "B=b"), ("y", some "")].Perm separatedContext.entries ∧
    [("xa|", none), ("x", some "B=b"), ("y", some "")].Pairwise Before ∧
    separatedContext.canonical = .error (.forbiddenCharacter ["xa|", "x"]) := by
  let ascending : List (String × Option String) :=
    [("xa|", none), ("x", some "B=b"), ("y", some "")]
  have permuted : ascending.Perm separatedContext.entries := .swap _ _ _
  have before : ascending.Pairwise Before := by decide +kernel
  have held : ∃ entry ∈ separatedContext.entries, HoldsSeparator entry := by decide
  obtain ⟨allContexts, -⟩ := canonical_order
  obtain ⟨order, -, -, unique, -, written⟩ := allContexts separatedContext
  have keys : (ascending.filter fun entry => HoldsSeparator entry).map Prod.fst = ["xa|", "x"] := by
    decide
  rw [if_pos held, ← unique ascending permuted before, keys] at written
  exact ⟨permuted, before, written⟩

end AeadEnvelope.Context
