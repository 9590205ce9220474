import LcpGateway.Base.Interleave
import LcpGateway.Conversation.Transcript

/-!
# Two appends at once

Library `Conversation`. Source `src/api/conv_store.py:193–227`. A call reads the stored hashes
and later inserts its rows from the position it computed from them; another call on the same
conversation may come in between, and `INSERT OR REPLACE` then overwrites its rows.
-/

namespace LcpGateway.Conversation
open LcpGateway.Base LcpGateway.Chat

/-- What a call brings to a conversation. -/
structure Batch where
  messages : List Incoming
  origin : String

/-- The rows a call inserts, and reports as written, when it has read `stored`. -/
def Batch.rows (r : Rendering) (batch : Batch) (stored : List String) : List Row :=
  unmatched stored (batch.messages.map (prepare r batch.origin))

/-- Calls of `append_messages` on one conversation in two steps: the `SELECT`, and the insert
from the position behind the hashes read; `conv_store.py:196–227`. -/
def appendCalls {ι : Type} (r : Rendering) (cid : String) (batches : ι → Batch) :
    TwoStep ι ConvMessages (List String) where
  read := fun _ t ↦ storedHashes t cid
  commit := fun i stored t ↦ writeFrom t cid stored.length ((batches i).rows r stored)

/-- Every row the call reports is in the store, under the position it was written to. -/
def Kept {ι : Type} (r : Rendering) (cid : String) (batches : ι → Batch)
    (c : InFlight ι ConvMessages (List String)) (i : ι) : Prop :=
  ∀ stored, c.seen i = some stored → ∀ n row, ((batches i).rows r stored)[n]? = some row →
    c.store.get? (cid, stored.length + n) = some row

/-- The two steps without a pause are `append_messages`. -/
theorem appendCalls_atomic {ι : Type} (r : Rendering) (cid : String) (batches : ι → Batch)
    (t : ConvMessages) (i : ι) :
    (appendCalls r cid batches).atomic t i =
      (appendMessages r t cid (batches i).messages (batches i).origin).1 := by
  rw [appendMessages_eq]
  simp [TwoStep.atomic, appendCalls, Batch.rows, storedHashes]

section Pair

variable (r : Rendering) (s : MessageStore) (cid : String) (batches : Bool → Batch)

/-- The rows a call finds to insert in the store both calls start from. -/
def pending (i : Bool) : List Row := (batches i).rows r (storedHashes s.table cid)

private theorem kept_iff {c : InFlight Bool ConvMessages (List String)} {i : Bool}
    {stored : List String} {xs : List Row} (hseen : c.seen i = some stored)
    (hown : Owns c.store cid xs) :
    Kept r cid batches c i ↔ (batches i).rows r stored <+: xs.drop stored.length := by
  rw [← hown.found_iff stored.length, Kept]
  constructor
  · intro h
    exact h stored hseen
  · intro h stored' hseen'
    obtain rfl : stored = stored' := Option.some.inj (hseen.symm.trans hseen')
    exact h

private theorem length_storedHashes :
    (storedHashes s.table cid).length = (s.transcript cid).length := by
  rw [storedHashes, List.length_map]
  rfl

/-- Calls one after the other keep what they report. -/
theorem kept_serial (i : Bool) :
    let c := run (appendCalls r cid batches).step (.start s.table) (serial i !i)
    Kept r cid batches c i ∧ Kept r cid batches c !i := by
  intro c
  have hne : i ≠ !i := by cases i <;> decide
  obtain ⟨hstore, hseen, hseen'⟩ :=
    TwoStep.run_serial (T := appendCalls r cid batches) hne s.table
  rw [appendCalls_atomic, appendCalls_atomic] at hstore
  rw [appendCalls_atomic] at hseen'
  let first := s.append r cid (batches i).messages (batches i).origin
  have hfirst : first.transcript cid = s.transcript cid ++ pending r s cid batches i := by
    rw [MessageStore.transcript_append, if_pos rfl]
    rfl
  have hown : Owns c.store cid (first.transcript cid ++
      (batches !i).rows r (storedHashes first.table cid)) := by
    have h := first.owns_appendMessages r cid (batches !i).messages (batches !i).origin cid
    rw [if_pos rfl] at h
    exact hstore ▸ h
  constructor
  · rw [kept_iff r cid batches hseen hown]
    change pending r s cid batches i <+: List.drop (storedHashes s.table cid).length _
    rw [length_storedHashes, hfirst, List.append_assoc, List.drop_left]
    exact List.prefix_append _ _
  · rw [kept_iff r cid batches hseen' hown]
    change _ <+: List.drop (storedHashes first.table cid).length _
    rw [length_storedHashes, List.drop_left]
    exact List.prefix_rfl

/-- Calls that both read before one inserts: the later insert overwrites the earlier one, which
keeps its rows exactly when one of the two inserts extends the other. -/
theorem kept_overlapping (i : Bool) {reads : List (Phase Bool)}
    (hreads : reads = [.read i, .read !i] ∨ reads = [.read !i, .read i]) :
    let c := run (appendCalls r cid batches).step (.start s.table)
      (reads ++ [.commit i, .commit !i])
    (Kept r cid batches c i ∧ Kept r cid batches c !i) ↔
      pending r s cid batches i <+: pending r s cid batches (!i) ∨
        pending r s cid batches (!i) <+: pending r s cid batches i := by
  intro c
  have hne : i ≠ !i := by cases i <;> decide
  obtain ⟨hstore, hseen, hseen'⟩ :=
    TwoStep.run_overlapping (T := appendCalls r cid batches) hne s.table hreads
  let a := pending r s cid batches i
  let b := pending r s cid batches !i
  have hown : Owns c.store cid (s.transcript cid ++ (b ++ a.drop b.length)) := by
    have hfirst : Owns (writeFrom s.table cid (s.transcript cid).length a) cid
        (s.transcript cid ++ a) := (s.owns cid).append a
    have hboth := hfirst.writeFrom (n := (s.transcript cid).length) (by simp) b
    rw [List.take_left, List.append_assoc, List.drop_append, List.drop_eq_nil_of_le (by omega),
      List.nil_append, Nat.add_sub_cancel_left] at hboth
    rw [← length_storedHashes] at hboth
    exact hstore ▸ hboth
  rw [kept_iff r cid batches hseen hown, kept_iff r cid batches hseen' hown]
  change (a <+: List.drop (storedHashes s.table cid).length _ ∧
    b <+: List.drop (storedHashes s.table cid).length _) ↔ a <+: b ∨ b <+: a
  rw [length_storedHashes, List.drop_left, ← prefix_overwrite_iff]
  constructor
  · intro h
    exact h.1
  · intro h
    exact ⟨h, List.prefix_append _ _⟩

/-- Both calls keep every row they report exactly when they run one after the other, or the
rows they find to insert agree as far as both reach. -/
theorem kept_iff_serial_or_comparable (events : List (Phase Bool))
    (h : Interleaving [false, true] events) :
    (∀ i, Kept r cid batches (run (appendCalls r cid batches).step (.start s.table) events) i) ↔
      (events = serial false true ∨ events = serial true false) ∨
        pending r s cid batches false <+: pending r s cid batches true ∨
          pending r s cid batches true <+: pending r s cid batches false := by
  rw [Bool.forall_bool]
  rcases h.pair_cases with (rfl | rfl) | ⟨reads, commits, rfl, hreads, hcommits⟩
  · have hkept := kept_serial r s cid batches false
    exact iff_of_true hkept (.inl (.inl rfl))
  · have hkept := kept_serial r s cid batches true
    exact iff_of_true hkept.symm (.inl (.inr rfl))
  · have hserial : ¬ (reads ++ commits = serial false true ∨
        reads ++ commits = serial true false) := by
      rcases hreads with rfl | rfl <;> simp [serial]
    rw [or_iff_right hserial]
    rcases hcommits with rfl | rfl
    · exact kept_overlapping r s cid batches false hreads
    · rw [and_comm, or_comm]
      exact kept_overlapping r s cid batches true hreads.symm

end Pair

/-- Two requests that open one conversation at the same time: both report one row, and the
store holds one row. -/
theorem kept_fails_for_two_openings :
    let batches : Bool → Batch := fun i ↦
      ⟨[userText (if i then "second" else "first")], "capture"⟩
    let events : List (Phase Bool) := [.read false, .read true, .commit false, .commit true]
    Interleaving [false, true] events ∧
      ¬ ∀ i, Kept userDigests "c" batches
        (run (appendCalls userDigests "c" batches).step (.start MessageStore.empty.table) events)
        i := by
  intro batches events
  have hevents : Interleaving [false, true] events :=
    .cons (.cons .nil (.left (.left .nil))) (.left (.right (.left (.right .nil))))
  refine ⟨hevents, ?_⟩
  intro h
  have hrow := h false [] rfl 0 (prepare userDigests "capture" (userText "first")) rfl
  revert hrow
  decide

/-- Two requests that carry the same new message lose nothing. -/
theorem kept_for_equal_messages :
    Kept userDigests "c" (fun _ ↦ ⟨[userText "first"], "capture"⟩)
        (run (appendCalls userDigests "c" (fun _ ↦ ⟨[userText "first"], "capture"⟩)).step
          (.start MessageStore.empty.table)
          [.read false, .read true, .commit false, .commit true]) false ∧
      Kept userDigests "c" (fun _ ↦ ⟨[userText "first"], "capture"⟩)
        (run (appendCalls userDigests "c" (fun _ ↦ ⟨[userText "first"], "capture"⟩)).step
          (.start MessageStore.empty.table)
          [.read false, .read true, .commit false, .commit true]) true := by
  have hevents : Interleaving [false, true]
      [Phase.read false, .read true, .commit false, .commit true] :=
    .cons (.cons .nil (.left (.left .nil))) (.left (.right (.left (.right .nil))))
  have hkept := (kept_iff_serial_or_comparable userDigests MessageStore.empty "c"
    (fun _ ↦ ⟨[userText "first"], "capture"⟩) _ hevents).mpr (.inr (.inl List.prefix_rfl))
  exact ⟨hkept false, hkept true⟩

end LcpGateway.Conversation
