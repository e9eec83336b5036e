import AeadEnvelope.Proofs.Command.Exchange
import AeadEnvelope.Proofs.Context.CanonicalLength
import AeadEnvelope.Proofs.Context.Canonicalization
import AeadEnvelope.Proofs.TagLength.RoundTrip
import AeadEnvelope.Proofs.VarintFrame.Binding

/-!
# Round trips of the command line

`pack` or `seal` writes a file with a wire of its input, and a later run of `unpack` or `open` has
this file as its input. Main statement: which contexts are packed or sealed, and under which ones
the input comes back, byte for byte, or the later run fails (`run_roundTrip`). For tag/length wires
an omitted context is another one than the empty one (`not_accepts_omitted`), for varint wires it is
the same (`binds_getD_iff`).
-/
namespace AeadEnvelope.Command

variable {σ File : Type} {host : Host (StateM σ)} {files : Files σ File} {before after : σ}
  {report : Report} {settings : Settings} {path : String} {input : Bytes}

section TagLength

/-- Whether a wire that is packed under one text of a context, or without one, is accepted under
another. -/
def Accepts (written expected : Option String) : Prop :=
  ∃ context other, written.mapM Context.parse = .ok context ∧
    expected.mapM Context.parse = .ok other ∧ (Context.verify context other).outcome = .ok ()

/-- A context that was read, or none, is packed with a ciphertext exactly if both fit. -/
theorem exists_encode_iff {text : Option String} {context : Option Context}
    (read : text.mapM Context.parse = .ok context) :
    (∃ wire, TagLength.Current.encode ⟨context, input⟩ = .ok wire) ↔
      Envelope.Fits ⟨context, input⟩ := by
  constructor
  · rintro ⟨wire, written⟩
    obtain ⟨front, given, short, -⟩ := TagLength.Current.encode_eq_ok_iff.mp written
    refine ⟨short, fun held canonical same found => ?_⟩
    rw [same] at given
    obtain _ | ⟨other, fits⟩ := given
    exact Except.ok.inj (other.symm.trans found) ▸ fits
  · intro fits
    refine TagLength.Current.exists_encode fits fun held same => ?_
    obtain rfl : context = some held := same
    obtain ⟨text, -, parsed⟩ := Outcome.exists_of_mapM_some read
    exact Context.exists_canonical_of_parse parsed

/-- A context read of a short text fits. -/
theorem fits_of_short {text : Option String} {context : Option Context}
    (read : text.mapM Context.parse = .ok context) (small : input.length < 2 ^ 32)
    (short : ∀ given, text = some given → given.utf8ByteSize < 2 ^ 29) :
    Envelope.Fits ⟨context, input⟩ := by
  refine ⟨small, fun held canonical same found => ?_⟩
  obtain rfl : context = some held := same
  obtain ⟨given, named, parsed⟩ := Outcome.exists_of_mapM_some read
  exact Context.length_canonical_lt parsed found (short given named)

/-- What is packed under one context is unpacked under another exactly if that accepts it, and is
then the ciphertext that was packed. -/
theorem unpacks_iff_accepts {others : Settings} {wire ciphertext : Bytes}
    (packed : settings.Packs input wire) :
    others.Unpacks wire ciphertext ↔
      Accepts (settings.last .context) (others.last .context) ∧ ciphertext = input := by
  obtain ⟨context, read, written⟩ := packed
  have parsed := TagLength.parse_encode written
  constructor
  · rintro ⟨expected, readOther, envelope, accepted, rfl⟩
    obtain ⟨packet, found, rfl, agreed⟩ := TagLength.decode_outcome_eq_ok_iff.mp accepted
    obtain rfl := Except.ok.inj (parsed.symm.trans found)
    exact ⟨⟨context, expected, read, readOther, agreed⟩, rfl⟩
  · rintro ⟨⟨held, expected, again, readOther, agreed⟩, rfl⟩
    obtain rfl := Except.ok.inj (read.symm.trans again)
    exact ⟨expected, readOther, _,
      TagLength.decode_outcome_eq_ok_iff.mpr ⟨_, parsed, rfl, agreed⟩, rfl⟩

/-- What is packed is accepted under the same text. -/
theorem accepts_self {wire : Bytes} (packed : settings.Packs input wire) :
    Accepts (settings.last .context) (settings.last .context) := by
  obtain ⟨context, read, written⟩ := packed
  exact ⟨context, context, read, read, TagLength.verify_self_of_encode written⟩

/-- What is packed with a context, were it the empty one, is not accepted without one, nor the
other way round. -/
theorem not_accepts_omitted (text : String) :
    ¬ Accepts none (some text) ∧ ¬ Accepts (some text) none := by
  constructor
  · rintro ⟨context, other, absent, present, agreed⟩
    obtain rfl := Except.ok.inj absent
    obtain ⟨theirs, rfl⟩ := Option.isSome_iff_exists.mp (Outcome.isSome_of_mapM present)
    cases agreed
  · rintro ⟨context, other, present, absent, agreed⟩
    obtain rfl := Except.ok.inj absent
    obtain ⟨ours, rfl⟩ := Option.isSome_iff_exists.mp (Outcome.isSome_of_mapM present)
    cases agreed

end TagLength

section Varint

/-- There are no pairs without a context. -/
theorem hasPairs_none_iff {pairs : Option (List (String × String))} :
    HasPairs none pairs ↔ pairs = none := by
  constructor
  · rintro ⟨context, absent, paired⟩
    obtain rfl := Except.ok.inj absent
    exact (Except.ok.inj paired).symm
  · rintro rfl
    exact ⟨none, rfl, rfl⟩

/-- The pairs of a context under a text are its keys, all with values. -/
theorem hasPairs_some_iff {text : String} {pairs : Option (List (String × String))} :
    HasPairs (some text) pairs ↔
      ∃ context given, Context.parse text = .ok context ∧
        context.entries = given.map (fun pair => (pair.1, some pair.2)) ∧ pairs = some given := by
  constructor
  · rintro ⟨context, read, paired⟩
    obtain ⟨held, parsed, rfl⟩ := Outcome.mapM_some_eq_ok_iff.mp read
    obtain ⟨given, listed, rfl⟩ := Outcome.mapM_some_eq_ok_iff.mp paired
    exact ⟨held, given, parsed, Plan.pairsOf_eq_ok_iff.mp listed, rfl⟩
  · rintro ⟨context, given, parsed, valued, rfl⟩
    have listed := Plan.pairsOf_eq_ok_iff.mpr valued
    exact ⟨some context, Outcome.mapM_some_eq_ok_iff.mpr ⟨context, parsed, rfl⟩,
      Outcome.mapM_some_eq_ok_iff.mpr ⟨given, listed, rfl⟩⟩

/-- The associated data of the pairs under a text. -/
def Binds (text : Option String) (bound : Option Bytes) : Prop :=
  ∃ pairs, HasPairs text pairs ∧ AssociatedData.canonicalize .standard pairs = .ok bound

/-- Whether a ciphertext can be bound to the context under a text, or to none. -/
inductive Sealable : Option String → Prop where
  /-- The context is omitted. -/
  | omitted : Sealable none
  /-- The text is read as a context in which every key has a value, and its pairs can be bound. -/
  | given {text : String} {context : Context} {pairs : List (String × String)}
    {bound : Option Bytes} (read : Context.parse text = .ok context)
    (valued : context.entries = pairs.map fun pair => (pair.1, some pair.2))
    (canonical : AssociatedData.canonicalize .standard (some pairs) = .ok bound) :
    Sealable (some text)

/-- There are associated data, or known to be none, exactly under a text that can be bound. -/
theorem exists_binds_iff {text : Option String} : (∃ bound, Binds text bound) ↔ Sealable text := by
  constructor
  · rintro ⟨bound, pairs, paired, canonical⟩
    cases text with
    | none => exact .omitted
    | some text =>
      obtain ⟨context, given, read, valued, rfl⟩ := hasPairs_some_iff.mp paired
      exact .given read valued canonical
  · rintro (_ | ⟨read, valued, canonical⟩)
    · exact ⟨none, none, hasPairs_none_iff.mpr rfl, VarintFrame.canonicalize_eq_none_iff.mpr rfl⟩
    · exact ⟨_, _, hasPairs_some_iff.mpr ⟨_, _, read, valued, rfl⟩, canonical⟩

/-- An omitted context binds the same as the empty one. -/
theorem binds_getD_iff {text : Option String} {bound : Option Bytes} :
    Binds (some (text.getD "")) bound ↔ Binds text bound := by
  cases text with
  | some text => exact .rfl
  | none =>
    constructor
    · rintro ⟨pairs, paired, canonical⟩
      obtain ⟨context, given, read, valued, rfl⟩ := hasPairs_some_iff.mp paired
      obtain rfl := Except.ok.inj read
      obtain rfl := List.map_eq_nil_iff.mp valued.symm
      exact ⟨none, hasPairs_none_iff.mpr rfl, canonical⟩
    · rintro ⟨pairs, paired, canonical⟩
      obtain rfl := hasPairs_none_iff.mp paired
      exact ⟨some [], hasPairs_some_iff.mpr ⟨.empty, [], rfl, rfl, rfl⟩, canonical⟩

/-- What is sealed under one context is opened under the same, or under none instead of the empty
one, and is then the ciphertext that was sealed. -/
theorem opens_iff_eq {others : Settings} {wire ciphertext : Bytes}
    (sealed : settings.Seals input wire)
    (same : (others.last .context).getD "" = (settings.last .context).getD "") :
    others.Opens wire ciphertext ↔ ciphertext = input := by
  obtain ⟨pairs, paired, written⟩ := sealed
  obtain ⟨bound, canonical, rfl⟩ := VarintFrame.encodePairs_eq_ok_iff.mp written
  obtain ⟨filled, short⟩ := VarintFrame.length_of_canonicalize canonical
  have parsed : VarintFrame.parse (VarintFrame.encode ⟨input, bound⟩) = .ok ⟨input, bound⟩ := by
    refine VarintFrame.parse_encode filled (Nat.lt_of_le_of_lt short ?_)
    decide
  constructor
  · rintro ⟨given, -, frame, accepted, rfl⟩
    obtain ⟨found, -⟩ := VarintFrame.decode_outcome_eq_ok_iff.mp accepted
    obtain rfl := Except.ok.inj (parsed.symm.trans found)
    rfl
  · rintro rfl
    -- What is bound depends on the text alone, and an omitted one counts as empty.
    have binds : Binds (others.last .context) bound := by
      rw [← binds_getD_iff, same, binds_getD_iff]
      exact ⟨pairs, paired, canonical⟩
    obtain ⟨given, pairedOther, canonicalOther⟩ := binds
    exact ⟨given, pairedOther, ⟨ciphertext, bound⟩,
      VarintFrame.decode_outcome_eq_ok_iff.mpr ⟨parsed, canonicalOther⟩, rfl⟩

/-- There is a wire to be sealed exactly for a context that can be bound. -/
theorem exists_seals_iff :
    (∃ wire, settings.Seals input wire) ↔ Sealable (settings.last .context) := by
  rw [← exists_binds_iff]
  constructor
  · rintro ⟨wire, pairs, paired, written⟩
    obtain ⟨bound, canonical, -⟩ := VarintFrame.encodePairs_eq_ok_iff.mp written
    exact ⟨bound, pairs, paired, canonical⟩
  · rintro ⟨bound, pairs, paired, canonical⟩
    exact ⟨_, pairs, paired, VarintFrame.encodePairs_eq_ok_iff.mpr ⟨bound, canonical, rfl⟩⟩

end Varint

/-- What later runs of a command leave that have known settings and a file as their input. -/
def LaterRuns (reader : Host (StateM σ)) (command path : String) (after : σ)
    (leaves : Settings → Report → σ → Prop) : Prop :=
  ∀ others : Settings, others.Known → others.last .input = some path →
    ∀ report final, run reader (command :: others.arguments) after = (report, final) →
      leaves others report final

/-- What a run of `pack` comes to, whose output is a file, and the runs of `unpack` on that file. -/
structure PackRoundTrip (reader : Host (StateM σ)) (files : Files σ File) (settings : Settings)
    (path : String) (input : Bytes) (report : Report) (after : σ) : Prop where
  /-- It succeeds exactly if a context that is given is read, and fits its length field. -/
  packed : report.exitCode = 0 ↔
    ∃ context, (settings.last .context).mapM Context.parse = .ok context ∧
      Envelope.Fits ⟨context, input⟩
  /-- A text of less than 2²⁹ bytes, which is more than any system passes as an argument, only has
  to be read. -/
  packed_of_short :
    (∀ text, settings.last .context = some text → text.utf8ByteSize < 2 ^ 29) →
      (report.exitCode = 0 ↔ ∀ text, settings.last .context = some text →
        ∃ context, Context.parse text = .ok context)
  /-- `unpack` leaves the input under a context that is accepted, and fails under any other. -/
  unpacked : report.exitCode = 0 →
    LaterRuns reader "unpack" path after fun others opened final =>
      (Accepts (settings.last .context) (others.last .context) →
        reader.Writable (Plan.outputOf others.options) after →
        Delivered files input after (Plan.outputOf others.options) opened final) ∧
      (¬ Accepts (settings.last .context) (others.last .context) →
        opened.exitCode = 1 ∧ final = after)
  /-- The context that was packed is accepted itself. -/
  own : report.exitCode = 0 → Accepts (settings.last .context) (settings.last .context)
  /-- An omitted context is not accepted in place of one that is given, were it the empty one, nor
  the other way round. -/
  omitted : ∀ text, ¬ Accepts none (some text) ∧ ¬ Accepts (some text) none

/-- What a run of `seal` comes to, whose output is a file, and the runs of `open` on that file. -/
structure SealRoundTrip (reader : Host (StateM σ)) (files : Files σ File) (settings : Settings)
    (path : String) (input : Bytes) (report : Report) (after : σ) : Prop where
  /-- It succeeds exactly if the context is omitted or can be bound. -/
  sealed : report.exitCode = 0 ↔ Sealable (settings.last .context)
  /-- `open` leaves the input under the same context, where an omitted one is the same as the empty
  one. -/
  opened : report.exitCode = 0 →
    LaterRuns reader "open" path after fun others opened final =>
      (others.last .context).getD "" = (settings.last .context).getD "" →
        reader.Writable (Plan.outputOf others.options) after →
        Delivered files input after (Plan.outputOf others.options) opened final

section RoundTrips

variable {reader : Host (StateM σ)} (lawful : host.Lawful files)
  (readerLawful : reader.Lawful files) (known : settings.Known)
  (named : settings.last .output = some path)
  (held : host.read (Plan.inputOf settings.options) before = (.ok input, before))
  (writable : host.Writable (Plan.outputOf settings.options) before)

/-- The input of a later run is what was left in the file. -/
theorem read_of_delivered {reader : Host (StateM σ)} (lawful : reader.Lawful files)
    (named : settings.last .output = some path) {wire : Bytes}
    (delivered : Delivered files wire before (Plan.outputOf settings.options) report after)
    {others : Settings} (source : others.last .input = some path) :
    reader.read (Plan.inputOf others.options) after = (.ok wire, after) := by
  have output : Plan.outputOf settings.options = .file path := by
    rw [Plan.outputOf, Settings.options, named]
  have input : Plan.inputOf others.options = .file path := by
    rw [Plan.inputOf, Settings.options, source]
  rw [output] at delivered
  rw [input]
  cases delivered with
  | file replaced => exact lawful.readFile_of_replaced replaced

include lawful readerLawful known named held writable

/-- What a run of `pack` and a later one of `unpack` come to. -/
theorem packRoundTrip (small : input.length < 2 ^ 32)
    (ran : run host ("pack" :: settings.arguments) before = (report, after)) :
    PackRoundTrip reader files settings path input report after := by
  have leaves := run_pack lawful known held named ran
  have packed : report.exitCode = 0 ↔
      ∃ context, (settings.last .context).mapM Context.parse = .ok context ∧
        Envelope.Fits ⟨context, input⟩ := by
    rw [leaves.exitCode_eq_zero_iff writable]
    constructor
    · rintro ⟨wire, context, read, written⟩
      exact ⟨context, read, (exists_encode_iff read).mp ⟨wire, written⟩⟩
    · rintro ⟨context, read, fits⟩
      obtain ⟨wire, written⟩ := (exists_encode_iff read).mpr fits
      exact ⟨wire, context, read, written⟩
  refine ⟨packed, fun short => packed.trans ⟨?_, ?_⟩, fun succeeded => ?_, fun succeeded => ?_,
    not_accepts_omitted⟩
  · rintro ⟨context, read, -⟩ text given
    rw [given] at read
    obtain ⟨found, parsed, -⟩ := Outcome.mapM_some_eq_ok_iff.mp read
    exact ⟨found, parsed⟩
  · intro each
    obtain ⟨context, read⟩ := Outcome.exists_mapM each
    exact ⟨context, read, fits_of_short read small short⟩
  · intro others knownOther source opened final ranOther
    obtain ⟨wire, wrote, delivered⟩ := leaves.exists_delivered succeeded
    have heldOther := read_of_delivered readerLawful named delivered source
    have later := run_unpack readerLawful knownOther heldOther ranOther
    constructor
    · intro accepted writableOther
      exact later.delivered_of_unique writableOther
        ((unpacks_iff_accepts wrote).mpr ⟨accepted, rfl⟩)
        fun _ unpacked => ((unpacks_iff_accepts wrote).mp unpacked).2
    · intro refused
      exact later.failed_of_nothing fun _ unpacked =>
        refused ((unpacks_iff_accepts wrote).mp unpacked).1
  · obtain ⟨wire, wrote, -⟩ := leaves.exists_delivered succeeded
    exact accepts_self wrote

/-- What a run of `seal` and a later one of `open` come to. -/
theorem sealRoundTrip (ran : run host ("seal" :: settings.arguments) before = (report, after)) :
    SealRoundTrip reader files settings path input report after := by
  have leaves := run_seal lawful known held named ran
  refine ⟨(leaves.exitCode_eq_zero_iff writable).trans exists_seals_iff, fun succeeded => ?_⟩
  intro others knownOther source opened final ranOther same writableOther
  obtain ⟨wire, wrote, delivered⟩ := leaves.exists_delivered succeeded
  have heldOther := read_of_delivered readerLawful named delivered source
  exact (run_open readerLawful knownOther heldOther ranOther).delivered_of_unique writableOther
    ((opens_iff_eq wrote same).mpr rfl) fun _ opened => (opens_iff_eq wrote same).mp opened

/-- The round trips of a ciphertext on lawful hosts: `pack` or `seal` with known settings writes a
file, and a later `unpack` or `open` reads it. -/
theorem run_roundTrip (small : input.length < 2 ^ 32) :
    (∀ report after, run host ("pack" :: settings.arguments) before = (report, after) →
      PackRoundTrip reader files settings path input report after) ∧
    (∀ report after, run host ("seal" :: settings.arguments) before = (report, after) →
      SealRoundTrip reader files settings path input report after) :=
  ⟨fun _ _ => packRoundTrip lawful readerLawful known named held writable small,
    fun _ _ => sealRoundTrip lawful readerLawful known named held writable⟩

end RoundTrips

/-- Settings of two options, each set twice, once to a value that looks like an option. -/
def repeated : Settings :=
  [("-o", "--context"), ("-c", "--input"), ("--context", "K=v|a=-o"), ("--output", "out")]

/-- With these settings one byte from the standard input is packed and sealed in an empty
directory. -/
theorem run_roundTrip_repeated :
    repeated.Known ∧ repeated.last .output = some "out" ∧
      ∃ packed packedFiles sealedReport sealedFiles,
        run (Directory.host [7]) ("pack" :: repeated.arguments) .empty = (packed, packedFiles) ∧
        packed.exitCode = 0 ∧
        PackRoundTrip (Directory.host []) Directory.files repeated "out" [7] packed packedFiles ∧
        run (Directory.host [7]) ("seal" :: repeated.arguments) .empty =
          (sealedReport, sealedFiles) ∧
        sealedReport.exitCode = 0 ∧
        SealRoundTrip (Directory.host []) Directory.files repeated "out" [7] sealedReport
          sealedFiles := by
  have known : repeated.Known := by unfold Settings.Known; decide
  have named : repeated.last .output = some "out" := by decide
  have held : (Directory.host [7]).read (Plan.inputOf repeated.options) .empty =
      (.ok [7], .empty) := rfl
  have found : Directory.destination "out" .empty = .ok ⟨"", "out"⟩ := by decide +kernel
  have writable : (Directory.host [7]).Writable (Plan.outputOf repeated.options) .empty :=
    Directory.writable_host found
  obtain ⟨packs, seals⟩ := run_roundTrip (Directory.lawful_host [7]) (Directory.lawful_host [])
    known named held writable (by decide)
  exact ⟨known, named, _, _, _, _, rfl, by decide +kernel, packs _ _ rfl, rfl, by decide +kernel,
    seals _ _ rfl⟩

end AeadEnvelope.Command
