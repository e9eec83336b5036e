import AeadEnvelope.Proofs.Base128

/-!
# Numbers in base 128 behind one another

A form that stands somewhere in a buffer is read from there up to its end, whatever stands before
and behind it (`decodeAt_append`), so numbers written behind one another are read as they were
written (`finds_flatMap_encode`), and nothing else is found from the first of them to the end of the
last (`Finds.unique`). Main statement: a number is written behind a buffer in the foretold count of
bytes, one to ten of them, it is read from there as itself up to its end, no other form of it is as
short, and a list of numbers is found again in what is written of it (`encode_succession`).
-/
namespace AeadEnvelope.Base128

variable {buffer form front later : Bytes} {value position next stop : Nat}
variable {values found : List Nat}

/-- Numbers are found behind one another, from one position of a buffer to another. -/
inductive Finds (buffer : Bytes) : Nat → List Nat → Nat → Prop where
  /-- No number is found where nothing is read. -/
  | none {position : Nat} : Finds buffer position [] position
  /-- The first number is read, and the others are found behind it. -/
  | next {position middle stop value : Nat} {values : List Nat}
    (read : decodeAt buffer position = (.ok value, middle))
    (rest : Finds buffer middle values stop) : Finds buffer position (value :: values) stop

/-- A form that stands in a buffer is read from there up to its end. -/
theorem decodeAt_append (consumed : Consumed form value) (front later : Bytes) :
    decodeAt (front ++ (form ++ later)) front.length = (.ok value, front.length + form.length) := by
  have decoded : decode (form ++ later) = (.ok value, form.length) :=
    decode_eq_ok_iff.mpr ⟨form, later, rfl, rfl, consumed⟩
  simp only [decodeAt, List.drop_left, decoded]

/-- All bytes are taken as a number exactly if they are read as it from their start to their end. -/
theorem decodeAt_zero_iff :
    decodeAt form 0 = (.ok value, form.length) ↔ Consumed form value := by
  have whole : decodeAt form 0 = decode form := by
    simp only [decodeAt, List.drop_zero, Nat.zero_add]
  rw [whole, Consumed]

/-- Numbers written behind one another are found up to the end of the last one. -/
theorem finds_flatMap_encode (bounded : ∀ value ∈ values, value < UInt64.size)
    (front later : Bytes) :
    Finds (front ++ (values.flatMap encode ++ later)) front.length values
      (front.length + (values.flatMap encode).length) := by
  induction values generalizing front with
  | nil => exact .none
  | cons value values step =>
    obtain ⟨fits, others⟩ := List.forall_mem_cons.mp bounded
    have read := decodeAt_append (consumed_encode fits) front (values.flatMap encode ++ later)
    -- The others are found behind the first one, which then belongs to what stands in front.
    have rest := step others (front ++ encode value)
    rw [List.length_append, List.append_assoc] at rest
    rw [List.flatMap_cons, List.append_assoc, List.length_append, ← Nat.add_assoc]
    exact .next read rest

/-- Where numbers are found, the position does not go back. -/
theorem Finds.le (finds : Finds buffer position values stop) : position ≤ stop := by
  induction finds with
  | none => exact Nat.le_refl _
  | next read rest step =>
    have moved := lt_of_decodeAt_ok read
    omega

/-- Where a number is found first, the position moves on. -/
theorem Finds.lt (finds : Finds buffer position (value :: values) stop) : position < stop := by
  cases finds with
  | next read rest =>
    have moved := lt_of_decodeAt_ok read
    have kept := rest.le
    omega

/-- Only one list of numbers is found between two positions. -/
theorem Finds.unique (finds : Finds buffer position values stop)
    (others : Finds buffer position found stop) : found = values := by
  induction finds generalizing found with
  | none =>
    cases found with
    | nil => rfl
    | cons value found => exact absurd others.lt (Nat.lt_irrefl _)
  | @next position middle stop value values read rest step =>
    cases others with
    | none =>
      have moved := lt_of_decodeAt_ok read
      have kept := rest.le
      omega
    | next again further =>
      have same := read.symm.trans again
      obtain ⟨first, behind⟩ := Prod.mk.inj same
      have number := Except.ok.inj first
      rw [← behind] at further
      rw [step further, number]

/-- Repeated reading goes on behind a number that is read, unless the buffer ends there. -/
theorem decodeAll_of_ok (read : decodeAt buffer position = (.ok value, next)) :
    decodeAll buffer position =
      (.ok value, next) :: if next < buffer.length then decodeAll buffer next else [] := by
  rw [decodeAll]
  split
  · next cause stopped failed =>
    rw [read] at failed
    cases failed
  · next number stopped again =>
    obtain ⟨first, behind⟩ := Prod.mk.inj (read.symm.trans again)
    rw [Except.ok.inj first, behind]

/-- Repeated reading yields the numbers that are found up to the end of a buffer, and ends there. -/
theorem Finds.decodeAll_eq (finds : Finds buffer position values stop)
    (ending : stop = buffer.length) (nonempty : values ≠ []) :
    (decodeAll buffer position).map Prod.fst = values.map Except.ok ∧
      (decodeAll buffer position).getLast?.map Prod.snd = some stop := by
  induction finds with
  | none => exact absurd rfl nonempty
  | @next position middle stop value values read rest step =>
    rw [decodeAll_of_ok read]
    cases values with
    | nil =>
      cases rest with
      | none =>
        have last : ¬ middle < buffer.length := by omega
        rw [if_neg last]
        exact ⟨rfl, rfl⟩
    | cons second values =>
      have further : middle < buffer.length := ending ▸ rest.lt
      obtain ⟨outcomes, last⟩ := step ending (List.cons_ne_nil second values)
      rw [if_pos further]
      constructor
      · rw [List.map_cons, outcomes]
        rfl
      · have others : decodeAll buffer middle ≠ [] := by
          intro nothing
          rw [nothing] at outcomes
          cases outcomes
        rw [List.getLast?_cons_of_ne_nil others, last]

/-- A number of 64 bits is written behind a buffer in the foretold count of bytes, at least one and
at most ten; it is read from there as itself, up to its end, whatever follows it; and bytes that are
taken entirely as it are the written ones, or more of them. What is written of a list of such
numbers is found from its start to its end as this list and no other one, and this is what repeated
reading yields of it before it ends with the last byte. -/
theorem encode_succession (fits : value < UInt64.size)
    (bounded : ∀ value ∈ values, value < UInt64.size) (buffer later : Bytes) :
    (1 ≤ encodedLength value ∧ encodedLength value ≤ 10 ∧
      (buffer ++ encode value).length = buffer.length + encodedLength value ∧
      decodeAt (buffer ++ encode value ++ later) buffer.length =
        (.ok value, (buffer ++ encode value).length) ∧
      ∀ form, decodeAt form 0 = (.ok value, form.length) →
        form = encode value ∨ (encode value).length < form.length) ∧
    (∀ found, Finds (values.flatMap encode) 0 found (values.flatMap encode).length ↔
      found = values) ∧
    (values ≠ [] →
      (decodeAll (values.flatMap encode) 0).map Prod.fst = values.map Except.ok ∧
        (decodeAll (values.flatMap encode) 0).getLast?.map Prod.snd =
          some (values.flatMap encode).length) := by
  have written : Finds (values.flatMap encode) 0 values (values.flatMap encode).length := by
    have finds := finds_flatMap_encode bounded [] []
    rw [List.append_nil, List.nil_append, List.length_nil, Nat.zero_add] at finds
    exact finds
  refine ⟨⟨?_, ?_, ?_, ?_, ?_⟩, ?_, ?_⟩
  · rw [encodedLength_eq]
    exact Nat.le_add_left 1 _
  · exact encodedLength_le_maxLength fits
  · rw [List.length_append, length_encode]
  · rw [List.append_assoc, List.length_append]
    exact decodeAt_append (consumed_encode fits) buffer later
  · intro form read
    exact (decodeAt_zero_iff.mp read).shortest
  · intro found
    constructor
    · exact written.unique
    · intro same
      rw [same]
      exact written
  · exact written.decodeAll_eq rfl

/-- Behind two bytes, 300 is written in two bytes and read from there in front of another one, and
its form with a zero behind it is longer. Between the least and the greatest number it is found
again. -/
theorem encode_succession_padded :
    encodedLength 300 = 2 ∧
    decodeAt ([0xEE, 0x80] ++ encode 300 ++ [0x07]) 2 = (.ok 300, 4) ∧
    (encode 300).length < 3 ∧
    (decodeAll ([0, 300, UInt64.size - 1].flatMap encode) 0).map Prod.fst =
      [.ok 0, .ok 300, .ok (UInt64.size - 1)] := by
  have fits : 300 < UInt64.size := by decide
  have bounded : ∀ value ∈ [0, 300, UInt64.size - 1], value < UInt64.size := by decide
  obtain ⟨⟨-, -, length, read, shortest⟩, -, outcomes⟩ :=
    encode_succession fits bounded [0xEE, 0x80] [0x07]
  have form : encode 300 = [0xAC, 0x02] := by
    rw [encode_of_le (by decide), encode_of_lt (by decide)]
    rfl
  have padded : decodeAt [0xAC, 0x82, 0x00] 0 = (.ok 300, 3) := rfl
  refine ⟨by decide, ?_, ?_, ?_⟩
  · rw [form] at read ⊢
    exact read
  · rcases shortest _ padded with same | longer
    · rw [form] at same
      cases same
    · exact longer
  · exact (outcomes (by decide)).1

end AeadEnvelope.Base128
