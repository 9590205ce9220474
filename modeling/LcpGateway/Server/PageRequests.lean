import LcpGateway.Server.Routes

/-!
# The requests of the pages

Library `Server`. Sources `src/server/handler.py:257–266,721–776,884–1192` and
`src/ui/templates/jinja/sections/sec_providers_script.html:154,161,174,187`,
`src/ui/templates/jinja/pages/profile_detail.html:137,150`,
`src/ui/templates/jinja/pages/alerts.html:164`,
`src/ui/templates/jinja/sections/sec_models_script.html:28`. The pages write a name into the path
with `encodeURIComponent`. Most handlers decode it; the removal of a registry entry does not.
-/

namespace LcpGateway.Server.Routes
open LcpGateway.Base LcpGateway.Config

/-! ## The chains of tests -/

/-- `self.path.split("/")[index]`, as it stands. -/
def rawPart (path : String) (index : Nat) : Option String :=
  (segments path.toList)[index]?.map String.ofList

/-- `len(self.path.split("/"))`. -/
def rawCount (path : String) : Nat := (segments path.toList).length

/-- `len(self.path.split("?")[0].split("/"))`. -/
def partCount (path : String) : Nat := (segments (pathNoQuery path)).length

/-- `do_PUT`; `handler.py:721–745`. -/
def doPut (path : String) : Option Call :=
  if startsWith "/api/providers/" path && partCount path == 4 then
    some ⟨"_serve_provider_update", [pathPart path 3]⟩
  else if startsWith "/api/chains/" path && rawCount path == 4 then
    some ⟨"_serve_chain_reorder", [rawPart path 3]⟩
  else if startsWith "/api/profiles/" path && endsWith "/budget" path then
    some ⟨"_serve_profile_budget_update", [rawPart path 3]⟩
  else if startsWith "/api/profiles/" path && rawCount path == 4 then
    some ⟨"_serve_profile_update", [rawPart path 3]⟩
  else if path == "/api/alerts/config" then some ⟨"_serve_alerts_config_update", []⟩
  else if path == "/api/work/sources" then some ⟨"_serve_work_sources_put", []⟩
  else if startsWith "/api/budgets/" path && rawCount path == 4 then
    some ⟨"_serve_budget_update", [rawPart path 3]⟩
  else none

/-- `do_DELETE`; `handler.py:747–776`. -/
def doDelete (path : String) : Option Call :=
  if startsWith "/api/providers/" path && partCount path == 4 then
    some ⟨"_serve_provider_delete", [pathPart path 3]⟩
  else if startsWith "/api/keys/" path && rawCount path == 4 then
    some ⟨"_serve_key_delete", [rawPart path 3]⟩
  else if "/api/profiles/".toList.isPrefixOf (pathNoQuery path) &&
      "/avatar".toList.isSuffixOf (pathNoQuery path) && partCount path == 5 then
    some ⟨"_serve_profile_avatar_delete", [pathPart path 3]⟩
  else if startsWith "/api/profiles/" path && rawCount path == 4 then
    some ⟨"_serve_profile_delete", [rawPart path 3]⟩
  else if startsWith "/api/budgets/" path && rawCount path == 4 then
    some ⟨"_serve_budget_delete", [rawPart path 3]⟩
  else if startsWith "/api/models/registry/" path && rawCount path == 5 then
    some ⟨"_serve_registry_delete_api", [rawPart path 4]⟩
  else if startsWith "/api/setup/" path && rawCount path == 5 then
    some ⟨"_serve_setup_remove_api", [rawPart path 3, rawPart path 4]⟩
  else none

/-- What a request runs; `none` is answered with a 404, or by the proxy. -/
def serve (modelsPaths : List String) (method : Method) (path : String) : Option Call :=
  match method with
  | .put => doPut path
  | .delete => doDelete path
  | .get => dispatch (buildRoutes modelsPaths) .get path
  | .post => dispatch (buildRoutes modelsPaths) .post path

/-! ## The requests -/

/-- A request a page sends about a name. -/
structure PageRequest where
  method : Method
  front : List String
  behind : List String
  call : String

/-- The path, with the name written into it. -/
def PageRequest.path (q : PageRequest) (name : String) : String :=
  pathOf (q.front ++ Percent.encodeURIComponent name :: q.behind)

/-- Saving a provider. -/
def providerUpdate : PageRequest := ⟨.put, ["api", "providers"], [], "_serve_provider_update"⟩

/-- Deleting a provider. -/
def providerDelete : PageRequest := ⟨.delete, ["api", "providers"], [], "_serve_provider_delete"⟩

/-- Renaming a provider. -/
def providerRename : PageRequest :=
  ⟨.post, ["api", "providers"], ["rename"], "api.providers.rename"⟩

/-- Switching a provider of a profile. -/
def providerToggle : PageRequest :=
  ⟨.post, ["api", "providers"], ["toggle"], "api.providers.toggle"⟩

/-- Saving the avatar of a profile. -/
def avatarPut : PageRequest := ⟨.post, ["api", "profiles"], ["avatar"], "api.profile.avatar"⟩

/-- Deleting the avatar of a profile. -/
def avatarDelete : PageRequest :=
  ⟨.delete, ["api", "profiles"], ["avatar"], "_serve_profile_avatar_delete"⟩

/-- Acknowledging an alert, by its key. -/
def alertAcknowledge : PageRequest :=
  ⟨.post, ["api", "alerts"], ["acknowledge"], "api.alerts.acknowledge"⟩

/-- The requests whose names are decoded. -/
def pageRequests : List PageRequest := [providerUpdate, providerDelete, providerRename,
  providerToggle, avatarPut, avatarDelete, alertAcknowledge]

/-- The removal of a registry entry. -/
def registryRemoval : PageRequest :=
  ⟨.delete, ["api", "models", "registry"], [], "_serve_registry_delete_api"⟩

/-- A written name is one segment. -/
theorem plain_encodeURIComponent (name : String) : Plain (Percent.encodeURIComponent name) :=
  ⟨Percent.not_mem_encodeURIComponent name (by decide) (by decide),
    Percent.not_mem_encodeURIComponent name (by decide) (by decide)⟩

section Paths

variable {front rest : List String} {pre : String}

/-- A path begins with the segments in front. -/
theorem startsWith_pathOf (hpre : pre.toList = (front.flatMap fun s ↦ '/' :: s.toList) ++ ['/'])
    (hrest : rest ≠ []) : startsWith pre (pathOf (front ++ rest)) = true := by
  obtain ⟨s, rest, rfl⟩ := List.exists_cons_of_ne_nil hrest
  rw [startsWith, List.isPrefixOf_iff_prefix, hpre, pathOf, String.toList_ofList,
    List.flatMap_append, List.flatMap_cons, List.cons_append]
  exact (List.prefix_append_right_inj _).mpr ⟨s.toList ++ _, rfl⟩

/-- A path does not begin with what the segments in front exclude. -/
theorem not_startsWith_pathOf
    (hpre : ¬ pre.toList <+: front.flatMap fun s ↦ '/' :: s.toList)
    (hfront : ¬ (front.flatMap fun s ↦ '/' :: s.toList) <+: pre.toList) :
    startsWith pre (pathOf (front ++ rest)) = false := by
  by_contra hstart
  rw [Bool.not_eq_false, startsWith, List.isPrefixOf_iff_prefix, pathOf, String.toList_ofList,
    List.flatMap_append] at hstart
  exact (List.prefix_or_prefix_of_prefix hstart (List.prefix_append _ _)).elim hpre hfront

end Paths

/-- The segments of a path of plain segments, counted. -/
theorem partCount_pathOf {segs : List String} (h : ∀ s ∈ segs, Plain s) :
    partCount (pathOf segs) = segs.length + 1 := by
  rw [partCount, segments_pathOf h, List.length_cons, List.length_map]

/-- The segments of a path of plain segments, counted as they stand. -/
theorem rawCount_pathOf {segs : List String} (h : ∀ s ∈ segs, Plain s) :
    rawCount (pathOf segs) = segs.length + 1 := by
  rw [rawCount, toList_pathOf h, ← partCount_pathOf h, partCount]

/-- A segment of a path of plain segments, as it stands. -/
theorem rawPart_pathOf {segs : List String} (h : ∀ s ∈ segs, Plain s) (i : Nat) :
    rawPart (pathOf segs) (i + 1) = segs[i]? := by
  rw [rawPart, toList_pathOf h, segments_pathOf h, List.getElem?_cons_succ, List.getElem?_map,
    Option.map_map]
  simp only [Function.comp_def, String.ofList_toList, Option.map_id']

/-! ## What the handlers are given -/

/-- Where the segments around the name are plain, all are. -/
theorem plain_path {q : PageRequest} (hfront : ∀ s ∈ q.front, Plain s)
    (hbehind : ∀ s ∈ q.behind, Plain s) (name : String) :
    ∀ s ∈ q.front ++ Percent.encodeURIComponent name :: q.behind, Plain s := by
  intro s hs
  rcases List.mem_append.mp hs with hs | hs
  · exact hfront s hs
  rcases List.mem_cons.mp hs with rfl | hs
  · exact plain_encodeURIComponent name
  · exact hbehind s hs

/-- The segments around a name are plain. -/
theorem plain_pageRequests : ∀ q ∈ pageRequests, (∀ s ∈ q.front, Plain s) ∧
    ∀ s ∈ q.behind, Plain s := by
  decide +kernel

/-- The name is decoded, whatever it is. -/
theorem pathPart_request {q : PageRequest} (hq : q ∈ pageRequests) (name : String) :
    pathPart (q.path name) 3 = some (plainSpaces name) := by
  have hfront : ∀ q ∈ pageRequests, q.front.length = 2 := by decide
  have hplain := plain_pageRequests q hq
  rw [PageRequest.path, pathPart_pathOf (plain_path hplain.1 hplain.2 name),
    List.getElem?_append_right (hfront q hq).le, hfront q hq, List.getElem?_cons_zero,
    Option.map_some, Percent.unquote_encodeURIComponent]

/-- The rule of `/api/profiles/{name}/avatar`. -/
def avatarRule : Rule := ⟨.post, "api.profile.avatar",
  .regex [.lit "api", .lit "profiles", .any, .lit "avatar"], [3]⟩

/-- The rule of `/api/providers/{name}/rename`. -/
def renameRule : Rule :=
  ⟨.post, "api.providers.rename", .startsEndsWith "/api/providers/" "/rename", [3]⟩

/-- The rule of `/api/providers/{name}/toggle`. -/
def toggleRule : Rule :=
  ⟨.post, "api.providers.toggle", .startsEndsWith "/api/providers/" "/toggle", [3]⟩

/-- The rule of `/api/alerts/{key}/acknowledge`. -/
def acknowledgeRule : Rule :=
  ⟨.post, "api.alerts.acknowledge", .startsEndsWith "/api/alerts/" "/acknowledge", [3]⟩

/-- The requests that go through the table, with their rules. -/
def postRequests : List (PageRequest × Rule) := [(providerRename, renameRule),
  (providerToggle, toggleRule), (avatarPut, avatarRule), (alertAcknowledge, acknowledgeRule)]

/-- The outline of the paths of a request, whatever the name. -/
def PageRequest.outline (q : PageRequest) : Outline :=
  .closedOn (text "" :: (q.front.map text ++ .other [[]] [] :: q.behind.map text))

/-- The first candidate for each of them. -/
theorem head?_postRequests : ∀ q ∈ postRequests,
    (candidates (pageRules ++ apiRules) .post q.1.outline).head? = some q.2 := by
  have hall : postRequests.all (fun q ↦
      (candidates (pageRules ++ apiRules) .post q.1.outline).head? = some q.2) = true := by
    decide +kernel
  exact fun q hq ↦ of_decide_eq_true (List.all_eq_true.mp hall q hq)

/-- A name that is not empty is not written as the empty text. -/
theorem encodeURIComponent_ne_empty {name : String} (hname : name ≠ "") :
    Percent.encodeURIComponent name ≠ "" := by
  intro hempty
  apply hname
  rw [← Percent.unquote_encodeURIComponent name, hempty]
  rfl

/-- A path of a request. -/
theorem PageRequest.fits_outline {q : PageRequest} (hfront : ∀ s ∈ q.front, Plain s)
    (hbehind : ∀ s ∈ q.behind, Plain s) {name : String} (hname : name ≠ "") :
    q.outline.fits (segments (pathNoQuery (q.path name))) = true := by
  have hwritten : (Percent.encodeURIComponent name).toList ≠ [] := by
    simpa using encodeURIComponent_ne_empty hname
  rw [PageRequest.path, segments_pathOf (plain_path hfront hbehind name), outline,
    Outline.fits_closedOn_iff, List.map_append, List.map_cons]
  refine .cons (by simp [text, Piece.fits]) (List.rel_append (fits_texts q.front) (.cons ?_ ?_))
  · simpa [Piece.fits] using hwritten
  · exact fits_texts q.behind

section Takes

variable {q : PageRequest} {name : String} {pre suf : String}

/-- A path of a request begins with what stands in front of the name. -/
theorem startsWith_request (hpre : pre.toList = (q.front.flatMap fun s ↦ '/' :: s.toList) ++ ['/']) :
    startsWith pre (q.path name) = true :=
  startsWith_pathOf hpre (List.cons_ne_nil _ _)

/-- A path of a request ends with what stands behind the name. -/
theorem endsWith_request (hsuf : suf.toList = q.behind.flatMap fun s ↦ '/' :: s.toList) :
    endsWith suf (q.path name) = true := by
  rw [endsWith, List.isSuffixOf_iff_suffix, hsuf, PageRequest.path, pathOf, String.toList_ofList,
    List.flatMap_append, List.flatMap_cons, ← List.append_assoc]
  exact List.suffix_append _ _

/-- A rule for what stands around the name takes the path. -/
theorem takes_request (hfront : ∀ s ∈ q.front, Plain s) (hbehind : ∀ s ∈ q.behind, Plain s)
    (hpre : pre.toList = (q.front.flatMap fun s ↦ '/' :: s.toList) ++ ['/'])
    (hsuf : suf.toList = q.behind.flatMap fun s ↦ '/' :: s.toList) :
    (Matcher.startsEndsWith pre suf).takes (pathNoQuery (q.path name)) = true := by
  have htext : (q.path name).toList = pathNoQuery (q.path name) :=
    toList_pathOf (plain_path hfront hbehind name)
  have hstart : startsWith pre (q.path name) = true := startsWith_request hpre
  have hend : endsWith suf (q.path name) = true := endsWith_request hsuf
  rw [startsWith, htext] at hstart
  rw [endsWith, htext] at hend
  rw [Matcher.takes, hstart, hend, Bool.and_self]

/-- A rule that takes the path of a request runs it. -/
theorem serve_post {r : Rule} (hq : (q, r) ∈ postRequests) (hfront : ∀ s ∈ q.front, Plain s)
    (hbehind : ∀ s ∈ q.behind, Plain s) (hname : name ≠ "")
    (htakes : r.matcher.takes (pathNoQuery (q.path name)) = true) (modelsPaths : List String) :
    serve modelsPaths .post (q.path name) = some ⟨r.name, r.parts.map (pathPart (q.path name))⟩ := by
  have hfirst := head?_postRequests (q, r) hq
  rw [serve, dispatch_post]
  exact dispatch_of_candidate hfirst (PageRequest.fits_outline hfront hbehind hname) htakes

end Takes

/-- The rule of the avatars takes the path of any name. -/
theorem takes_avatar {name : String} (hname : name ≠ "") :
    avatarRule.matcher.takes (pathNoQuery (avatarPut.path name)) = true := by
  have hplain : ∀ s ∈ avatarPut.front ++ Percent.encodeURIComponent name :: avatarPut.behind,
      Plain s :=
    plain_path (by decide +kernel) (by decide +kernel) name
  rw [PageRequest.path, avatarRule, Matcher.takes, segments_pathOf hplain, patternOutline,
    Outline.fits_closedOn_iff]
  simpa [avatarPut, patternPieces, SegmentPattern.piece, SegmentPattern.lastPiece, Piece.fits]
    using encodeURIComponent_ne_empty hname

/-- Every request runs its handler, and hands the name on decoded. -/
theorem serve_request (modelsPaths : List String) {q : PageRequest} (hq : q ∈ pageRequests)
    {name : String} (hname : name ≠ "") :
    serve modelsPaths q.method (q.path name) = some ⟨q.call, [pathPart (q.path name) 3]⟩ := by
  obtain ⟨hfront, hbehind⟩ := plain_pageRequests q hq
  have hplain := plain_path hfront hbehind name
  have hcount : partCount (q.path name) = q.behind.length + 4 := by
    have hlength : ∀ q ∈ pageRequests, q.front.length = 2 := by decide
    rw [PageRequest.path, partCount_pathOf hplain, List.length_append, List.length_cons,
      hlength q hq]
    omega
  have htext : (q.path name).toList = pathNoQuery (q.path name) := toList_pathOf hplain
  simp only [pageRequests, List.mem_cons, List.not_mem_nil, or_false] at hq
  rcases hq with rfl | rfl | rfl | rfl | rfl | rfl | rfl
  · have hstart : startsWith "/api/providers/" (providerUpdate.path name) = true :=
      startsWith_request (by decide +kernel)
    rw [providerUpdate, serve, doPut, ← providerUpdate, hstart, hcount]
    rfl
  · have hstart : startsWith "/api/providers/" (providerDelete.path name) = true :=
      startsWith_request (by decide +kernel)
    rw [providerDelete, serve, doDelete, ← providerDelete, hstart, hcount]
    rfl
  · exact serve_post (r := renameRule) (by simp [postRequests]) hfront hbehind hname
      (takes_request hfront hbehind (by decide +kernel) (by decide +kernel)) modelsPaths
  · exact serve_post (r := toggleRule) (by simp [postRequests]) hfront hbehind hname
      (takes_request hfront hbehind (by decide +kernel) (by decide +kernel)) modelsPaths
  · exact serve_post (r := avatarRule) (by simp [postRequests]) hfront hbehind hname
      (takes_avatar hname) modelsPaths
  · have hproviders : startsWith "/api/providers/" (avatarDelete.path name) = false :=
      not_startsWith_pathOf (by decide +kernel) (by decide +kernel)
    have hkeys : startsWith "/api/keys/" (avatarDelete.path name) = false :=
      not_startsWith_pathOf (by decide +kernel) (by decide +kernel)
    have hstart : startsWith "/api/profiles/" (avatarDelete.path name) = true :=
      startsWith_request (by decide +kernel)
    have hend : endsWith "/avatar" (avatarDelete.path name) = true :=
      endsWith_request (by decide +kernel)
    rw [startsWith, htext] at hstart
    rw [endsWith, htext] at hend
    rw [avatarDelete, serve, doDelete, ← avatarDelete, hproviders, hkeys, hstart, hend, hcount]
    rfl
  · exact serve_post (r := acknowledgeRule) (by simp [postRequests]) hfront hbehind hname
      (takes_request hfront hbehind (by decide +kernel) (by decide +kernel)) modelsPaths

/-- What `_path_part` makes of a name is the name exactly when it holds no space that does not
break. -/
theorem plainSpaces_eq_self_iff (name : String) :
    plainSpaces name = name ↔ '\u00a0' ∉ name.toList := by
  rw [← String.toList_inj, plainSpaces, String.toList_ofList]
  constructor
  · intro h hmem
    rw [← h] at hmem
    obtain ⟨c, -, hc⟩ := List.mem_map.mp hmem
    split_ifs at hc with hbreak
    · exact absurd hc (by decide)
    · exact hbreak hc
  · intro h
    have hkept : ∀ c ∈ name.toList, (if c = '\u00a0' then ' ' else c) = id c := by
      intro c hc
      apply if_neg
      rintro rfl
      exact h hc
    rw [List.map_congr_left hkept, List.map_id]

/-- Every request of the pages runs its handler with the name it was sent for, exactly when the
name holds no space that does not break. -/
theorem pageRequests_iff (modelsPaths : List String) {name : String} (hname : name ≠ "") :
    (∀ q ∈ pageRequests, serve modelsPaths q.method (q.path name) = some ⟨q.call, [some name]⟩) ↔
      '\u00a0' ∉ name.toList := by
  rw [← plainSpaces_eq_self_iff]
  constructor
  · intro h
    have hupdate : providerUpdate ∈ pageRequests := by simp [pageRequests]
    have hgiven := (serve_request modelsPaths hupdate hname).symm.trans (h _ hupdate)
    rw [pathPart_request hupdate] at hgiven
    simpa using hgiven
  · intro h q hq
    rw [serve_request modelsPaths hq hname, pathPart_request hq, h]

-- a name with separators and a space
theorem pageRequests_local :
    serve defaultModelsPaths .delete (providerDelete.path "local/llm zgx?") =
      some ⟨"_serve_provider_delete", [some "local/llm zgx?"]⟩ :=
  (pageRequests_iff defaultModelsPaths (by decide)).mpr (by decide +kernel) providerDelete
    (by simp [pageRequests])

/-- The removal of a registry entry is handed the entry's name exactly when every character of it
is left as it is: the handler does not decode. -/
theorem registryRemoval_iff (modelsPaths : List String) (logical : String) :
    serve modelsPaths .delete (registryRemoval.path logical) =
        some ⟨registryRemoval.call, [some logical]⟩ ↔
      ∀ c ∈ logical.toList, Percent.isUnreserved c = true := by
  have hplain : ∀ s ∈ registryRemoval.front ++ Percent.encodeURIComponent logical ::
      registryRemoval.behind, Plain s :=
    plain_path (by decide +kernel) (by decide +kernel) logical
  have htext : (registryRemoval.path logical).toList = pathNoQuery (registryRemoval.path logical) :=
    toList_pathOf hplain
  have hother : ∀ pre ∈ ["/api/providers/", "/api/keys/", "/api/profiles/", "/api/budgets/"],
      startsWith pre (registryRemoval.path logical) = false := by
    intro pre hpre
    simp only [List.mem_cons, List.not_mem_nil, or_false] at hpre
    rcases hpre with rfl | rfl | rfl | rfl <;>
      exact not_startsWith_pathOf (by decide +kernel) (by decide +kernel)
  have hprofiles := hother "/api/profiles/" (by simp)
  have hstart : startsWith "/api/models/registry/" (registryRemoval.path logical) = true :=
    startsWith_request (by decide +kernel)
  have hcount : rawCount (registryRemoval.path logical) = 5 := rawCount_pathOf hplain
  have hpart : rawPart (registryRemoval.path logical) 4 =
      some (Percent.encodeURIComponent logical) := rawPart_pathOf hplain 3
  have hserved : serve modelsPaths .delete (registryRemoval.path logical) =
      some ⟨registryRemoval.call, [some (Percent.encodeURIComponent logical)]⟩ := by
    have hprefix := hprofiles
    rw [startsWith, htext] at hprefix
    rw [serve, doDelete, hother "/api/providers/" (by simp), hother "/api/keys/" (by simp), hprefix,
      hprofiles, hother "/api/budgets/" (by simp), hstart, hcount, hpart]
    rfl
  rw [hserved, ← Percent.encodeURIComponent_eq_self_iff]
  simp

end LcpGateway.Server.Routes
