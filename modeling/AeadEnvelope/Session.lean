import AeadEnvelope.AssociatedData.Listing
import AeadEnvelope.Context.Fill
import AeadEnvelope.Context.Source
import AeadEnvelope.Summary

/-!
# Working step by step

A session holds a context, a ciphertext and a wire, and each step uses or replaces some of them.
A step that fails leaves the session as it was.
-/
namespace AeadEnvelope

/-- What is worked on. -/
structure Session where
  /-- The context, if there is one. -/
  context : Option Context
  /-- The ciphertext. -/
  ciphertext : Bytes
  /-- The wire. -/
  wire : Bytes

namespace Session

/-- The session before its first step. -/
def start : Session := ⟨none, [], []⟩

/-- One step of a session. -/
inductive Step where
  /-- Take a context, or do without one. -/
  | context (source : ContextSource)
  /-- Complete the context by an additional one. -/
  | fill (additional : ContextSource)
  /-- Take a ciphertext. -/
  | ciphertext (bytes : Bytes)
  /-- Take the wire as the ciphertext. -/
  | nest
  /-- Write the context and the ciphertext as a tag/length wire. -/
  | encode
  /-- Write the ciphertext as a varint wire bound to pairs. -/
  | encodePairs (pairs : Option (List (String × String)))
  /-- Write the ciphertext as a varint wire with associated data. -/
  | encodeFrame (associated : Option Bytes)
  /-- Open the tag/length wire under the context of the session. -/
  | decodeOwn
  /-- Open the tag/length wire under an expected context. -/
  | decode (expected : ContextSource)
  /-- Open the varint wire under expected pairs. -/
  | decodeFrame (expected : Option (List (String × String)))
  /-- Compute the associated data of the context completed by an additional one. -/
  | associatedData (additional : ContextSource)
  /-- Take a wire. -/
  | wire (bytes : Bytes)
  /-- Keep no more than the given count of bytes of the wire. -/
  | truncate (length : Nat)
  /-- Replace up to the given count of bytes of the wire from a position on. -/
  | splice (position count : Nat) (bytes : Bytes)
  /-- Summarize the wire. -/
  | inspect

/-- What a step that did not fail has to say. -/
inductive Answer where
  /-- It is done. -/
  | done
  /-- A varint wire was opened; its associated data, with their listing if there are any. -/
  | opened (associated : Option Bytes) (listing : Option (Except Fault (Dictionary String)))
  /-- Associated data, if there are any. -/
  | associatedData (bytes : Option Bytes)
  /-- The summary of the wire. -/
  | summary (summary : Summary)

/-- Why a step failed. -/
inductive Refusal where
  /-- An operation failed. -/
  | fault (fault : Fault)
  /-- There is no context to be completed. -/
  | noContext

/-- What comes of a step. -/
structure Progress where
  /-- What it has to say, or why it failed. -/
  result : Except Refusal Answer
  /-- The session after it. -/
  session : Session
  /-- What was recorded on the way. -/
  events : List Event

/-- A step that failed. -/
def refuse (session : Session) (fault : Fault) : Progress := ⟨.error (.fault fault), session, []⟩

/-- A step that replaces parts of the session by a result. -/
def replace {α : Type} (session : Session) (outcome : Except Fault α) (change : α → Session) :
    Progress :=
  match outcome with
  | .error fault => session.refuse fault
  | .ok value => ⟨.ok .done, change value, []⟩

/-- A step that says a result and replaces nothing. -/
def report {α : Type} (session : Session) (outcome : Except Fault α) (say : α → Answer) :
    Progress :=
  match outcome with
  | .error fault => session.refuse fault
  | .ok value => ⟨.ok (say value), session, []⟩

/-- Open the tag/length wire under an expected context. -/
def openUnder (session : Session) (expected : Option Context) : Progress :=
  let opened := TagLength.decode session.wire expected
  match opened.outcome with
  | .error fault => ⟨.error (.fault fault), session, opened.events⟩
  | .ok envelope =>
    ⟨.ok .done, { session with context := envelope.context, ciphertext := envelope.ciphertext },
      opened.events⟩

/-- Open the varint wire under expected pairs. -/
def openFrame (session : Session) (expected : Option (List (String × String))) : Progress :=
  let opened := VarintFrame.decode .standard session.wire expected
  match opened.outcome with
  | .error fault => ⟨.error (.fault fault), session, opened.events⟩
  | .ok frame =>
    ⟨.ok (.opened frame.associated (frame.associated.map AssociatedData.list)),
      { session with ciphertext := frame.ciphertext }, opened.events⟩

/-- Do one step. -/
def perform (session : Session) : Step → Progress
  | .context source =>
    session.replace source.build fun context => { session with context := context }
  | .fill additional =>
    match session.context with
    | none => ⟨.error .noContext, session, []⟩
    | some base =>
      session.replace (additional.build.bind fun further => base.fill (further.getD .empty))
        fun context => { session with context := some context }
  | .ciphertext bytes =>
    session.replace (.ok bytes) fun taken => { session with ciphertext := taken }
  | .nest => session.replace (.ok session.wire) fun taken => { session with ciphertext := taken }
  | .encode =>
    session.replace (TagLength.Current.encode ⟨session.context, session.ciphertext⟩) fun wire =>
      { session with wire := wire }
  | .encodePairs pairs =>
    session.replace (VarintFrame.encodePairs session.ciphertext pairs) fun wire =>
      { session with wire := wire }
  | .encodeFrame associated =>
    session.replace (.ok (VarintFrame.encode ⟨session.ciphertext, associated⟩)) fun wire =>
      { session with wire := wire }
  | .decodeOwn => session.openUnder session.context
  | .decode expected =>
    match expected.build with
    | .error fault => session.refuse fault
    | .ok context => session.openUnder context
  | .decodeFrame expected => session.openFrame expected
  | .associatedData additional =>
    session.report
      (additional.build.bind fun further => Context.associatedData session.context further)
      .associatedData
  | .wire bytes => session.replace (.ok bytes) fun taken => { session with wire := taken }
  | .truncate length =>
    session.replace (.ok (session.wire.take length)) fun kept => { session with wire := kept }
  | .splice position count bytes =>
    let spliced :=
      session.wire.take position ++ bytes ++ (session.wire.drop position).drop count
    session.replace (.ok spliced) fun wire => { session with wire := wire }
  | .inspect => session.report (Summary.ofWire session.wire) .summary

/-- Do steps one after the other; what comes of each of them. -/
def performAll (session : Session) : List Step → List Progress
  | [] => []
  | step :: later =>
    let progress := session.perform step
    progress :: progress.session.performAll later

end Session

end AeadEnvelope
