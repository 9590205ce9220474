import LcpGateway.Base.Checks
import LcpGateway.Base.Object

/-!
# The snapshot of scheduled jobs

Library `Work`. Source `src/api/work_cron.py:82–157,184–196`. The snapshot is JSON that a batch on
the host writes; the view decorates every job of it before anything is read from it, so a snapshot
of another shape stops the view. A `ValueError` there is one to the caller as well.
-/

namespace LcpGateway.Work
open LcpGateway.Base

/-- A snapshot as it is read: none for an `OSError` or a `ValueError`. -/
abbrev Snapshot : Type := Option Json

/-- The message of a sequence of pairs with an element of another length. -/
def pairMessage (index length : Nat) : String :=
  "dictionary update sequence element #" ++ toString index ++ " has length " ++ toString length ++
    "; 2 is required"

/-- `dict(items)` and a `get` of the items, which a list does not have. -/
def pairsCheck : Nat → List Json → Check String
  | _, [] => .raises
  | index, item :: rest =>
    match item.iterate with
    | none => .raises
    | some parts =>
      if parts.length ≠ 2 then .refuses (pairMessage index parts.length)
      else if (parts.head?.all Json.hashable) then pairsCheck (index + 1) rest
      else .raises

/-- `dict(job)` and a `get` of the job. -/
def dictCheck (job : Json) : Check String :=
  match job with
  | .obj _ => .passes
  | .str s => if s = "" then .raises else .refuses (pairMessage 0 1)
  | .arr items => pairsCheck 0 items
  | _ => .raises

/-- `_decorate_job`: its last execution is read, and its status is looked up in a set;
`work_cron.py:82–97`. -/
def jobChecks (job : Json) : List (Check String) :=
  [dictCheck job,
    .raiseUnless ((((job.get? "last_execution").getD .null).orElse (.obj [])).isObj),
    .raiseUnless ((job.get? "status").any Json.hashable)]

/-- `p.get("jobs") or []`, as it is iterated. -/
def profileJobs (p : Json) : Option (List Json) :=
  (((p.get? "jobs").getD .null).orElse (.arr [])).iterate

/-- The entry of a profile; `work_cron.py:118–132`. -/
def profileChecks (p : Json) : List (Check String) :=
  [.raiseUnless p.isObj, .raiseUnless (profileJobs p).isSome] ++
    ((profileJobs p).getD []).flatMap jobChecks

/-- `snap.get("profiles", [])`, as it is iterated. -/
def snapshotProfiles (snap : Json) : Option (List Json) :=
  ((snap.get? "profiles").getD (.arr [])).iterate

/-- `cron_view` behind the read of the snapshot; `work_cron.py:100–157`. -/
def viewChecks : Snapshot → List (Check String)
  | none => []
  | some snap =>
    [.raiseUnless snap.isObj, .raiseUnless (snapshotProfiles snap).isSome] ++
      ((snapshotProfiles snap).getD []).flatMap profileChecks ++
      [.raiseUnless ((snap.get? "counts").getD (.obj [])).isObj]

/-- The profiles of the view. -/
def viewProfiles : Snapshot → List Json
  | none => []
  | some snap => (snapshotProfiles snap).getD []

/-- `p.get("profile")`. -/
def profileName (p : Json) : Json := (p.get? "profile").getD .null

/-- `_profile_names`; `work_cron.py:184–186`. -/
def profileNames (snapshot : Snapshot) : List Json := (viewProfiles snapshot).map profileName

/-- The names become members of a set. -/
def profileNamesChecks (snapshot : Snapshot) : List (Check String) :=
  viewChecks snapshot ++
    (profileNames snapshot).map (fun name ↦ .raiseUnless name.hashable)

/-- The jobs of the first profile of a name. -/
def jobsOf (snapshot : Snapshot) (profile : String) : List Json :=
  (((viewProfiles snapshot).find? (fun p ↦ (profileName p).isStr profile)).bind profileJobs).getD []

/-- `_job_ids`; `work_cron.py:189–196`. -/
def jobIds (snapshot : Snapshot) (profile : String) : List Json :=
  (jobsOf snapshot profile).map (fun j ↦ (j.get? "id").getD .null)

/-- The ids of the jobs are there, and become members of a set. -/
def jobIdsChecks (snapshot : Snapshot) (profile : String) : List (Check String) :=
  viewChecks snapshot ++
    (jobsOf snapshot profile).map (fun j ↦ .raiseUnless ((j.get? "id").any Json.hashable))

end LcpGateway.Work
