import Mathlib.Logic.Basic

/-!
# Relaying a stream

Library `Server`. Sources `src/api/request_pipeline.py:630–647` and
`src/server/handler.py:516–523`. The upstream side is a finite list of chunks and the way the
reader ends; the client side is a socket that stops taking writes at some point and never
recovers.
-/

namespace LcpGateway.Server

/-- The bytes of one read. -/
abbrev Chunk := List UInt8

/-- How the upstream reader ends: the end of the body, a read timeout, a connection error, or
another exception. -/
inductive StreamEnd where
  | closed
  | timedOut
  | reset
  | failed
  deriving DecidableEq, Repr

/-- What the reader of a stream yields. -/
structure Stream where
  chunks : List Chunk
  ending : StreamEnd
  deriving DecidableEq, Repr

/-- A client, by the number of socket writes it takes before it disconnects. -/
structure Client where
  disconnectsAfter : Option Nat
  deriving DecidableEq, Repr

namespace Client

/-- The write of this number, from zero, succeeds. -/
def accepts (client : Client) (n : Nat) : Bool := client.disconnectsAfter.all (n < ·)

/-- The chunks a client takes when write zero flushes the headers. -/
def delivered (client : Client) (chunks : List Chunk) : List Chunk :=
  match client.disconnectsAfter with
  | none => chunks
  | some k => chunks.take (k - 1)

/-- A client that takes a write has taken the ones before. -/
theorem accepts_of_le {client : Client} {m n : Nat} (hle : m ≤ n) (h : client.accepts n) :
    client.accepts m := by
  obtain ⟨disconnectsAfter⟩ := client
  cases disconnectsAfter with
  | none => rfl
  | some k =>
    simp only [accepts, Option.all_some, decide_eq_true_eq] at h ⊢
    omega

end Client

/-- How the relay loop stops. -/
inductive RelayEnd where
  | clientGone
  | upstream (ending : StreamEnd)
  deriving DecidableEq, Repr

/-- The relay loop from the write of number `n` on; `handler.py:516–523`. -/
def relay (client : Client) (ending : StreamEnd) : List Chunk → Nat → List Chunk × RelayEnd
  | [], _ => ([], .upstream ending)
  | chunk :: rest, n =>
    if client.accepts n then
      (chunk :: (relay client ending rest (n + 1)).1, (relay client ending rest (n + 1)).2)
    else ([], .clientGone)

/-- The loop reaches the upstream's end exactly when the client takes every chunk. -/
theorem relay_snd {client : Client} {n : Nat} (ending : StreamEnd) (chunks : List Chunk)
    (h : client.accepts n) :
    (relay client ending chunks (n + 1)).2 =
      if client.accepts (n + chunks.length) then .upstream ending else .clientGone := by
  induction chunks generalizing n with
  | nil => simp [relay, h]
  | cons chunk rest ih =>
    have hlength : n + (chunk :: rest).length = n + 1 + rest.length := by
      simp only [List.length_cons]
      omega
    rw [relay, hlength]
    by_cases hnext : client.accepts (n + 1)
    · simp only [hnext, if_true]
      exact ih hnext
    · have hlast : ¬ client.accepts (n + 1 + rest.length) :=
        fun hlast ↦ hnext (Client.accepts_of_le (Nat.le_add_right _ _) hlast)
      simp [hnext, hlast]

/-- The loop hands over the chunks the client takes. -/
theorem relay_fst (client : Client) (ending : StreamEnd) (chunks : List Chunk) (n : Nat) :
    (relay client ending chunks (n + 1)).1 =
      match client.disconnectsAfter with
      | none => chunks
      | some k => chunks.take (k - (n + 1)) := by
  induction chunks generalizing n with
  | nil => cases client.disconnectsAfter <;> simp [relay]
  | cons chunk rest ih =>
    have hrest := ih (n + 1)
    rw [relay]
    unfold Client.accepts
    cases hclient : client.disconnectsAfter with
    | none => simpa [hclient] using hrest
    | some k =>
      simp only [hclient] at hrest
      simp only [Option.all_some, decide_eq_true_eq]
      by_cases hlt : n + 1 < k
      · have hsub : k - (n + 1) = k - (n + 1 + 1) + 1 := by omega
        simp only [hlt, if_true, hrest]
        rw [hsub, List.take_succ_cons]
      · have hzero : k - (n + 1) = 0 := by omega
        simp [hlt, hzero]

/-- Relaying after the header flush. -/
theorem relay_eq {client : Client} (s : Stream) (h : client.accepts 0) :
    relay client s.ending s.chunks 1 =
      (client.delivered s.chunks,
        if client.accepts s.chunks.length then .upstream s.ending else .clientGone) := by
  have hfst := relay_fst client s.ending s.chunks 0
  have hsnd := relay_snd s.ending s.chunks h
  simp only [Nat.zero_add] at hfst hsnd
  rw [Prod.ext_iff]
  exact ⟨hfst, hsnd⟩

end LcpGateway.Server
