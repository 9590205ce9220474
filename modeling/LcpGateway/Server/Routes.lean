import LcpGateway.Base.FirstMatch
import LcpGateway.Base.PercentCoding
import LcpGateway.Base.Segments
import LcpGateway.Server.ChatCompletions

/-!
# Routes

Library `Server`. Sources `src/server/router.py` and
`src/server/handler.py:251–305,884–1192`. GET and POST go through a table whose first matching rule
wins. Which paths two rules share is decided on their outlines, so that the order of the table is
known to matter between few rules only.
-/

namespace LcpGateway.Server.Routes
open LcpGateway.Base LcpGateway.Config

/-! ## Matchers -/

/-- The methods of the handler. -/
inductive Method where
  | get | post | put | delete
  deriving DecidableEq, Repr

/-- One segment of a pattern: a fixed text, `[^/]+`, or a choice. -/
inductive SegmentPattern where
  | lit (text : String)
  | any
  | choice (texts : List String)
  deriving DecidableEq

/-- The segment is matched. -/
def SegmentPattern.piece : SegmentPattern → Piece
  | .lit text => .oneOf [text.toList]
  | .any => .other [[]] []
  | .choice texts => .oneOf (texts.map String.toList)

/-- The last segment is matched; `$` also stands in front of a line break at the end. -/
def SegmentPattern.lastPiece : SegmentPattern → Piece
  | .lit text => .oneOf [text.toList, text.toList ++ ['\n']]
  | .any => .other [[]] []
  | .choice texts => .oneOf (texts.map String.toList ++ texts.map (·.toList ++ ['\n']))

/-- The pieces of a pattern. -/
def patternPieces : List SegmentPattern → List Piece
  | [] => []
  | [last] => [last.lastPiece]
  | s :: rest => s.piece :: patternPieces rest

/-- The matcher factories; `router.py:39–111`. A pattern is anchored at both ends, and written
segment by segment behind its first slash; `any_of` is used on suffixes only. -/
inductive Matcher where
  | exact (paths : List String)
  | startsWith (pre : String)
  | endsWith (suf : String)
  | startsEndsWith (pre suf : String)
  | regex (pattern : List SegmentPattern)
  | anyOf (suffixes : List String)
  deriving DecidableEq

/-- The outline of the paths a pattern matches. -/
def patternOutline (pattern : List SegmentPattern) : Outline :=
  .closedOn (.oneOf [[]] :: patternPieces pattern)

/-- The matcher takes the path without its query. -/
def Matcher.takes (m : Matcher) (path : List Char) : Bool :=
  match m with
  | .exact paths => (paths.map String.toList).contains path
  | .startsWith pre => pre.toList.isPrefixOf path
  | .endsWith suf => suf.toList.isSuffixOf path
  | .startsEndsWith pre suf => pre.toList.isPrefixOf path && suf.toList.isSuffixOf path
  | .regex pattern => (patternOutline pattern).fits (segments path)
  | .anyOf suffixes => suffixes.any fun suf ↦ suf.toList.isSuffixOf path

/-! ## The table -/

/-- A rule; `parts` are the segments its action decodes and hands on. -/
structure Rule where
  method : Method
  name : String
  matcher : Matcher
  parts : List Nat
  deriving DecidableEq

/-- `path.split("?")[0]`. -/
def pathNoQuery (path : String) : List Char := path.toList.takeWhile (· ≠ '?')

/-- What `_path_part` replaces behind the decoding. -/
def plainSpaces (s : String) : String :=
  String.ofList (s.toList.map fun c ↦ if c = '\u00a0' then ' ' else c)

/-- `_path_part`; `handler.py:257–266`. `none` is an `IndexError`. -/
def pathPart (path : String) (index : Nat) : Option String :=
  (segments (pathNoQuery path))[index]?.map fun part ↦
    plainSpaces (Percent.unquote (String.ofList part))

/-- What a dispatched request runs: the rule or the handler's method, and what it is given. -/
structure Call where
  name : String
  args : List (Option String)
  deriving DecidableEq, Repr

/-- `RouteTable.dispatch`; `none` is a miss. -/
def dispatch (rules : List Rule) (method : Method) (path : String) : Option Call :=
  (rules.find? fun r ↦ r.method = method && r.matcher.takes (pathNoQuery path)).map fun r ↦
    ⟨r.name, r.parts.map (pathPart path)⟩

/-- `q.lstrip("/")`. -/
def lstripSlash (q : String) : String := String.ofList (q.toList.dropWhile (· = '/'))

/-- The rules in front of those for the configured listing paths; `handler.py:903–967`. -/
def pageRules : List Rule := [
  ⟨.get, "page.activity", .exact ["/activity"], []⟩,
  ⟨.get, "page.conversations", .exact ["/conversations"], []⟩,
  ⟨.get, "page.in_progress", .exact ["/in-progress"], []⟩,
  ⟨.get, "page.dashboard", .exact ["/", "/dashboard"], []⟩,
  ⟨.get, "page.keys", .exact ["/keys", "/keys/dashboard"], []⟩,
  ⟨.get, "page.providers", .exact ["/providers"], []⟩,
  ⟨.get, "page.profiles", .exact ["/profiles"], []⟩,
  ⟨.get, "page.profile.detail", .regex [.lit "profiles", .any], [2]⟩,
  ⟨.get, "api.profile.avatar", .regex [.lit "api", .lit "profiles", .any, .lit "avatar"], [3]⟩,
  ⟨.get, "page.models", .exact ["/models"], []⟩,
  ⟨.get, "page.setup", .exact ["/setup"], []⟩,
  ⟨.get, "page.work.tasks", .exact ["/work/tasks"], []⟩,
  ⟨.get, "page.work.fleet", .exact ["/work/fleet"], []⟩,
  ⟨.get, "page.work.cron", .exact ["/work/cron"], []⟩,
  ⟨.get, "page.work.config", .exact ["/work/config"], []⟩,
  ⟨.get, "page.usage", .exact ["/usage"], []⟩,
  ⟨.get, "page.logs", .exact ["/logs"], []⟩,
  ⟨.get, "page.alerts", .exact ["/alerts"], []⟩,
  ⟨.get, "page.dashboard.profile", .endsWith "/dashboard", []⟩,
  ⟨.get, "api.in_progress", .exact ["/api/in-progress"], []⟩,
  ⟨.get, "api.conversations", .exact ["/api/conversations"], []⟩,
  ⟨.get, "api.conversation.messages", .exact ["/api/conversations/messages"], []⟩,
  ⟨.get, "api.conversation.audit", .exact ["/api/conversations/audit"], []⟩,
  ⟨.get, "health", .exact ["/health"], []⟩]

/-- The rules for the configured listing paths; `handler.py:968–980`. -/
def modelsRules (modelsPaths : List String) : List Rule := [
  ⟨.get, "models.list", .exact modelsPaths, []⟩,
  ⟨.get, "models.list.profile", .anyOf (modelsPaths.map fun q ↦ "/" ++ lstripSlash q), []⟩]

/-- The rules behind; `handler.py:983–1189`. -/
def apiRules : List Rule := [
  ⟨.get, "static", .startsWith "/static/", []⟩,
  ⟨.get, "errors", .startsWith "/errors", []⟩,
  ⟨.get, "cache.stats", .exact ["/cache/stats"], []⟩,
  ⟨.get, "metrics", .exact ["/metrics"], []⟩,
  ⟨.get, "export", .exact ["/export"], []⟩,
  ⟨.get, "api.settings", .exact ["/api/settings"], []⟩,
  ⟨.get, "api.routing.status", .exact ["/api/routing/status"], []⟩,
  ⟨.get, "api.setup", .exact ["/api/setup"], []⟩,
  ⟨.get, "api.setup.progress", .exact ["/api/setup/progress"], []⟩,
  ⟨.get, "api.work.decisions", .exact ["/api/work/decisions"], []⟩,
  ⟨.get, "api.work.tasks", .exact ["/api/work/tasks"], []⟩,
  ⟨.get, "api.work.tasks.detail", .exact ["/api/work/tasks/detail"], []⟩,
  ⟨.get, "api.work.fleet", .exact ["/api/work/fleet"], []⟩,
  ⟨.get, "api.work.cron", .exact ["/api/work/cron"], []⟩,
  ⟨.get, "api.work.cron.ops", .exact ["/api/work/cron/ops"], []⟩,
  ⟨.post, "api.work.cron.ops", .exact ["/api/work/cron/ops"], []⟩,
  ⟨.get, "api.work.sources", .exact ["/api/work/sources"], []⟩,
  ⟨.put, "api.work.sources", .exact ["/api/work/sources"], []⟩,
  ⟨.get, "api.work.conversations", .exact ["/api/work/conversations"], []⟩,
  ⟨.get, "api.work.conversations.detail", .exact ["/api/work/conversations/detail"], []⟩,
  ⟨.get, "api.work.requests", .exact ["/api/work/requests"], []⟩,
  ⟨.get, "api.work.provider-decisions", .exact ["/api/work/provider-decisions"], []⟩,
  ⟨.get, "api.work.status", .exact ["/api/work/status"], []⟩,
  ⟨.get, "api.daily-costs", .exact ["/api/daily-costs"], []⟩,
  ⟨.get, "api.recent-requests", .exact ["/api/recent-requests"], []⟩,
  ⟨.get, "api.logs", .exact ["/api/logs"], []⟩,
  ⟨.get, "api.usage.stats", .exact ["/api/usage/stats"], []⟩,
  ⟨.get, "api.usage.totals", .exact ["/api/usage/totals"], []⟩,
  ⟨.get, "api.providers.presets", .exact ["/api/providers/presets"], []⟩,
  ⟨.get, "api.providers.health", .exact ["/api/providers/health"], []⟩,
  ⟨.get, "api.providers.failovers", .exact ["/api/providers/failovers"], []⟩,
  ⟨.get, "api.providers.failures",
    .regex [.lit "api", .lit "providers", .any, .lit "failures"], [3]⟩,
  ⟨.get, "api.providers", .exact ["/api/providers"], []⟩,
  ⟨.get, "api.profiles.budget", .regex [.lit "api", .lit "profiles", .any, .lit "budget"], [3]⟩,
  ⟨.get, "api.profiles", .exact ["/api/profiles"], []⟩,
  ⟨.get, "api.keys.detail", .regex [.lit "api", .lit "keys", .any], [3]⟩,
  ⟨.get, "api.keys", .exact ["/api/keys"], []⟩,
  ⟨.get, "api.alerts.config", .exact ["/api/alerts/config"], []⟩,
  ⟨.get, "api.alerts.active", .exact ["/api/alerts/active"], []⟩,
  ⟨.get, "api.alerts", .exact ["/api/alerts"], []⟩,
  ⟨.get, "api.budgets.status", .exact ["/api/budgets/status"], []⟩,
  ⟨.get, "api.budgets", .exact ["/api/budgets"], []⟩,
  ⟨.get, "api.cost-plugins.usage", .exact ["/api/cost-plugins/usage"], []⟩,
  ⟨.get, "api.cost-plugins.balances", .exact ["/api/cost-plugins/balances"], []⟩,
  ⟨.get, "api.cost-plugins.summary", .exact ["/api/cost-plugins/summary"], []⟩,
  ⟨.get, "api.cost-plugins.subscriptions", .exact ["/api/cost-plugins/subscriptions"], []⟩,
  ⟨.get, "api.cost-plugins.cookie",
    .regex [.lit "api", .lit "cost-plugins", .lit "cookie", .any], [4]⟩,
  ⟨.get, "api.cost-plugins.workspace-id",
    .regex [.lit "api", .lit "cost-plugins", .lit "workspace-id", .any], [4]⟩,
  ⟨.get, "api.models.capability", .exact ["/api/models/capability"], []⟩,
  ⟨.get, "api.models.registry", .exact ["/api/models/registry"], []⟩,
  ⟨.get, "memory.count", .regex [.any, .lit "memory", .lit "count"], []⟩,
  ⟨.post, "api.providers.test", .exact ["/api/providers/test"], []⟩,
  ⟨.post, "api.providers.discover", .exact ["/api/providers/discover"], []⟩,
  ⟨.post, "api.providers.toggle", .startsEndsWith "/api/providers/" "/toggle", [3]⟩,
  ⟨.post, "api.providers.rename", .startsEndsWith "/api/providers/" "/rename", [3]⟩,
  ⟨.post, "api.providers", .exact ["/api/providers"], []⟩,
  ⟨.post, "api.profile.avatar", .regex [.lit "api", .lit "profiles", .any, .lit "avatar"], [3]⟩,
  ⟨.post, "api.profile.mapping.seed", .exact ["/api/profiles/mapping/seed"], []⟩,
  ⟨.post, "api.profiles", .exact ["/api/profiles"], []⟩,
  ⟨.post, "api.keys.rotate", .startsEndsWith "/api/keys/" "/rotate", [3]⟩,
  ⟨.post, "api.keys", .exact ["/api/keys"], []⟩,
  ⟨.post, "api.alerts.test-webhook", .exact ["/api/alerts/webhook/test"], []⟩,
  ⟨.post, "api.alerts.acknowledge", .startsEndsWith "/api/alerts/" "/acknowledge", [3]⟩,
  ⟨.post, "api.budgets", .exact ["/api/budgets"], []⟩,
  ⟨.post, "api.setup.skip", .exact ["/api/setup/skip"], []⟩,
  ⟨.post, "api.setup.install",
    .regex [.lit "api", .lit "setup", .lit "install", .any, .any], [4, 5]⟩,
  ⟨.post, "api.settings.cache.refresh", .exact ["/api/settings/cache/refresh"], []⟩,
  ⟨.post, "api.settings.cache.clear", .exact ["/api/settings/cache/clear"], []⟩,
  ⟨.post, "api.settings", .exact ["/api/settings"], []⟩,
  ⟨.post, "api.routing.policy", .exact ["/api/routing/policy"], []⟩,
  ⟨.post, "api.routing.rules", .exact ["/api/routing/rules"], []⟩,
  ⟨.post, "api.circuit-breaker.reset", .startsWith "/api/circuit-breaker/reset", []⟩,
  ⟨.post, "api.models.registry", .exact ["/api/models/registry"], []⟩,
  ⟨.post, "api.models.capability.manual", .exact ["/api/models/capability/manual"], []⟩,
  ⟨.post, "api.models.capability.seed", .exact ["/api/models/capability/seed"], []⟩,
  ⟨.post, "api.cost-plugins.cookie",
    .regex [.lit "api", .lit "cost-plugins", .lit "cookie", .any], [4]⟩,
  ⟨.post, "api.cost-plugins.workspace-id",
    .regex [.lit "api", .lit "cost-plugins", .lit "workspace-id", .any], [4]⟩,
  ⟨.post, "memory.write",
    .regex [.any, .lit "memory", .choice ["retain", "recall", "forget"]], []⟩]

/-- `_build_routes`, on `_models_paths`; `handler.py:884–1192`. -/
def buildRoutes (modelsPaths : List String) : List Rule :=
  pageRules ++ modelsRules modelsPaths ++ apiRules

/-- `_models_paths` when the variable is not set; `handler.py:252–254`. -/
def defaultModelsPaths : List String := ["/models", "/v1/models"]

/-! ## Outlines of rules -/

/-- The outlines of the paths a matcher takes. -/
def Matcher.outlines : Matcher → List Outline
  | .exact paths => paths.map fun p ↦ .exactly p.toList
  | .startsWith pre => [⟨beginning pre.toList, [], false⟩]
  | .endsWith suf => [⟨[], ending suf.toList, false⟩]
  | .startsEndsWith pre suf => [⟨beginning pre.toList, ending suf.toList, false⟩]
  | .regex pattern => [patternOutline pattern]
  | .anyOf suffixes => suffixes.map fun suf ↦ ⟨[], ending suf.toList, false⟩

/-- What a matcher takes has one of its outlines. -/
theorem Matcher.exists_outline {m : Matcher} {path : List Char} (h : m.takes path = true) :
    ∃ o ∈ m.outlines, o.fits (segments path) = true := by
  cases m with
  | exact paths =>
    obtain ⟨p, hp, rfl⟩ := List.mem_map.mp (List.contains_iff_mem.mp h)
    exact ⟨_, List.mem_map.mpr ⟨p, hp, rfl⟩, fits_exactly p.toList⟩
  | startsWith pre =>
    rw [takes, List.isPrefixOf_iff_prefix] at h
    exact ⟨_, List.mem_singleton_self _, by simp [Outline.fits, fitFront_beginning h, fitFront]⟩
  | endsWith suf =>
    rw [takes, List.isSuffixOf_iff_suffix] at h
    exact ⟨_, List.mem_singleton_self _, by simp [Outline.fits, fitFront_ending h, fitFront]⟩
  | startsEndsWith pre suf =>
    rw [takes, Bool.and_eq_true, List.isPrefixOf_iff_prefix, List.isSuffixOf_iff_suffix] at h
    exact ⟨_, List.mem_singleton_self _,
      by simp [Outline.fits, fitFront_beginning h.1, fitFront_ending h.2]⟩
  | regex pattern => exact ⟨_, List.mem_singleton_self _, h⟩
  | anyOf suffixes =>
    obtain ⟨suf, hsuf, hpath⟩ := List.any_eq_true.mp h
    rw [List.isSuffixOf_iff_suffix] at hpath
    exact ⟨_, List.mem_map.mpr ⟨suf, hsuf, rfl⟩,
      by simp [Outline.fits, fitFront_ending hpath, fitFront]⟩

/-- Matchers whose outlines are apart take no path in common. -/
def Matcher.apart (m n : Matcher) : Bool :=
  m.outlines.all fun o ↦ n.outlines.all fun q ↦ o.apart q

/-- A path with an outline apart from all of a matcher is not taken. -/
theorem Matcher.not_takes_of_apart {m : Matcher} {o : Outline} {path : List Char}
    (h : m.outlines.all (o.apart ·) = true) (hpath : o.fits (segments path) = true) :
    m.takes path = false := by
  by_contra htakes
  obtain ⟨q, hq, hfits⟩ := m.exists_outline (Bool.not_eq_false _ ▸ htakes)
  rw [Outline.not_fits_of_apart (List.all_eq_true.mp h q hq) hpath] at hfits
  exact Bool.false_ne_true hfits

/-- Matchers that are apart take no path in common. -/
theorem Matcher.not_takes_both {m n : Matcher} (h : m.apart n = true) {path : List Char}
    (hm : m.takes path = true) : n.takes path = false := by
  obtain ⟨o, ho, hfits⟩ := m.exists_outline hm
  exact not_takes_of_apart (List.all_eq_true.mp h o ho) hfits

/-! ## The order of the table -/

/-- The rules whose paths are configured. -/
def configured : List String := ["models.list", "models.list.profile"]

/-- The other rules that share paths, the one in front first. -/
def sharing : List (String × String) := [
  ("page.dashboard", "page.dashboard.profile"),
  ("page.keys", "page.dashboard.profile"),
  ("page.profile.detail", "page.dashboard.profile"),
  ("page.dashboard.profile", "static"),
  ("page.dashboard.profile", "errors"),
  ("page.dashboard.profile", "api.keys.detail"),
  ("page.dashboard.profile", "api.cost-plugins.cookie"),
  ("page.dashboard.profile", "api.cost-plugins.workspace-id"),
  ("static", "memory.count"),
  ("errors", "memory.count")]

/-- The order of two rules of the table matters. -/
def OrderMatters (a b : Rule) : Prop :=
  a.method = b.method ∧
    (a.name ∈ configured ∨ b.name ∈ configured ∨ (a.name, b.name) ∈ sharing)

instance (a b : Rule) : Decidable (OrderMatters a b) :=
  inferInstanceAs (Decidable (_ ∧ (_ ∨ _ ∨ _)))

/-- No path is shared by two rules with fixed paths whose order does not matter. -/
theorem pairwise_fixed : (pageRules ++ apiRules).Pairwise fun a b ↦
    a.method = b.method → a.matcher.apart b.matcher = true ∨ OrderMatters a b := by
  decide +kernel

/-- No path is shared by two rules whose order does not matter, wherever the listing paths lie. -/
theorem pairwise_rules (modelsPaths : List String) : (buildRoutes modelsPaths).Pairwise fun a b ↦
    a.method = b.method → a.matcher.apart b.matcher = true ∨ OrderMatters a b := by
  have hmodels : ∀ r ∈ modelsRules modelsPaths, r.name ∈ configured := by
    simp [modelsRules, configured]
  obtain ⟨hpage, hapi, hcross⟩ := List.pairwise_append.mp pairwise_fixed
  refine List.pairwise_append.mpr ⟨List.pairwise_append.mpr ⟨hpage, ?_, ?_⟩, hapi, ?_⟩
  · exact List.pairwise_of_forall_mem_list fun a ha _ _ hmethod ↦
      Or.inr ⟨hmethod, Or.inl (hmodels a ha)⟩
  · exact fun a _ b hb hmethod ↦ Or.inr ⟨hmethod, Or.inr (Or.inl (hmodels b hb))⟩
  · intro a ha b hb hmethod
    rcases List.mem_append.mp ha with ha | ha
    · exact hcross a ha b hb hmethod
    · exact Or.inr ⟨hmethod, Or.inl (hmodels a ha)⟩

/-- No rule stands in the table twice. -/
theorem nodup_rules (modelsPaths : List String) : (buildRoutes modelsPaths).Nodup := by
  apply List.Nodup.of_map fun r ↦ (r.method, r.name)
  have hkeys : (buildRoutes modelsPaths).map (fun r ↦ (r.method, r.name)) =
      (buildRoutes []).map fun r ↦ (r.method, r.name) := rfl
  rw [hkeys]
  decide +kernel

/-- However the table is rearranged, every request is dispatched as before as long as the rules
that share paths keep their order. -/
theorem dispatch_eq_of_order (modelsPaths : List String) (rules : List Rule)
    (hperm : (buildRoutes modelsPaths).Perm rules)
    (horder : ∀ a b, [a, b].Sublist (buildRoutes modelsPaths) → OrderMatters a b →
      [a, b].Sublist rules) (method : Method) (path : String) :
    dispatch rules method path = dispatch (buildRoutes modelsPaths) method path := by
  have hfirst := find?_eq_of_order (p := fun r ↦
    r.method = method && r.matcher.takes (pathNoQuery path)) hperm (nodup_rules modelsPaths) ?_
  · rw [dispatch, hfirst, dispatch]
  intro a b hpair ha hb
  rw [Bool.and_eq_true, decide_eq_true_eq] at ha hb
  have happart := List.pairwise_iff_forall_sublist.mp (pairwise_rules modelsPaths) hpair
    (ha.1.trans hb.1.symm)
  rcases happart with happart | hmatters
  · rw [Matcher.not_takes_both happart ha.2] at hb
    exact absurd hb.2 Bool.false_ne_true
  · exact horder a b hpair hmatters

-- a table that holds its POST rules in front of all others
theorem dispatch_postsFirst :
    dispatch ((buildRoutes defaultModelsPaths).filter (fun r ↦ r.method = .post) ++
        (buildRoutes defaultModelsPaths).filter fun r ↦ !decide (r.method = .post)) .get "/health" =
      dispatch (buildRoutes defaultModelsPaths) .get "/health" := by
  refine dispatch_eq_of_order defaultModelsPaths _
    (List.filter_append_perm (fun r : Rule ↦ r.method = .post) _).symm ?_ .get "/health"
  intro a b hpair hmatters
  by_cases hpost : a.method = .post
  · have hfiltered := hpair.filter fun r : Rule ↦ r.method = .post
    have hkept : [a, b].filter (fun r : Rule ↦ r.method = .post) = [a, b] := by
      simp [hpost, ← hmatters.1]
    exact (hkept ▸ hfiltered).trans (List.sublist_append_left _ _)
  · have hfiltered := hpair.filter fun r : Rule ↦ !decide (r.method = .post)
    have hkept : [a, b].filter (fun r : Rule ↦ !decide (r.method = .post)) = [a, b] := by
      simp [hpost, ← hmatters.1]
    exact (hkept ▸ hfiltered).trans (List.sublist_append_right _ _)

/-! ## Paths that are known but for a name -/

/-- The rules for a method that may take a path of an outline. -/
def candidates (rules : List Rule) (method : Method) (o : Outline) : List Rule :=
  rules.filter fun r ↦ r.method = method && !r.matcher.outlines.all (o.apart ·)

/-- What takes a path of an outline is a candidate for it. -/
theorem find?_candidates (rules : List Rule) {method : Method} {o : Outline} {path : List Char}
    (hpath : o.fits (segments path) = true) :
    (candidates rules method o).find? (·.matcher.takes path) =
      rules.find? fun r ↦ r.method = method && r.matcher.takes path := by
  rw [candidates, List.find?_filter]
  congr 1
  funext r
  by_cases hmethod : r.method = method <;> by_cases htakes : r.matcher.takes path = true
  · have hapart : r.matcher.outlines.all (o.apart ·) = false := by
      by_contra hall
      rw [Matcher.not_takes_of_apart (Bool.not_eq_false _ ▸ hall) hpath] at htakes
      exact Bool.false_ne_true htakes
    simp [hmethod, htakes, hapart]
  all_goals simp_all

/-- The first candidate, when it takes the path, is the rule that is run. -/
theorem dispatch_of_candidate {rules : List Rule} {method : Method} {o : Outline} {r : Rule}
    {path : String} (hfirst : (candidates rules method o).head? = some r)
    (hpath : o.fits (segments (pathNoQuery path)) = true)
    (htakes : r.matcher.takes (pathNoQuery path) = true) :
    dispatch rules method path = some ⟨r.name, r.parts.map (pathPart path)⟩ := by
  obtain ⟨behind, hcandidates⟩ := List.head?_eq_some_iff.mp hfirst
  rw [dispatch, ← find?_candidates rules hpath, hcandidates,
    List.find?_cons_of_pos (p := fun q : Rule ↦ q.matcher.takes (pathNoQuery path)) htakes]
  rfl

/-- Without a candidate no rule is run. -/
theorem dispatch_of_noCandidate {rules : List Rule} {method : Method} {o : Outline} {path : String}
    (hfirst : (candidates rules method o).head? = none)
    (hpath : o.fits (segments (pathNoQuery path)) = true) : dispatch rules method path = none := by
  rw [dispatch, ← find?_candidates rules hpath, List.head?_eq_none_iff.mp hfirst]
  rfl

/-- A POST does not depend on the listing paths. -/
theorem dispatch_post (modelsPaths : List String) (path : String) :
    dispatch (buildRoutes modelsPaths) .post path = dispatch (pageRules ++ apiRules) .post path := by
  rw [dispatch, dispatch, buildRoutes, List.find?_append, List.find?_append, List.find?_append]
  simp [modelsRules]

/-- One segment that is a text. -/
def text (s : String) : Piece := .oneOf [s.toList]

/-- Texts are as known. -/
theorem fits_texts (texts : List String) :
    List.Forall₂ (fun q s ↦ q.fits s = true) (texts.map text) (texts.map String.toList) := by
  rw [List.forall₂_map_left_iff, List.forall₂_map_right_iff]
  exact List.forall₂_same.mpr fun s _ ↦ by simp [text, Piece.fits]

/-- The path of some segments. -/
def pathOf (segs : List String) : String :=
  String.ofList (segs.flatMap fun s ↦ '/' :: s.toList)

/-- The segment holds no separator. -/
def Plain (s : String) : Prop := '/' ∉ s.toList ∧ '?' ∉ s.toList

instance (s : String) : Decidable (Plain s) := inferInstanceAs (Decidable (_ ∧ _))

/-- A path of plain segments has no query. -/
theorem pathNoQuery_pathOf {segs : List String} (h : ∀ s ∈ segs, Plain s) :
    pathNoQuery (pathOf segs) = segs.flatMap fun s ↦ '/' :: s.toList := by
  rw [pathNoQuery, pathOf, String.toList_ofList, List.takeWhile_eq_self_iff]
  intro c hc
  obtain ⟨s, hs, hmem⟩ := List.mem_flatMap.mp hc
  rw [decide_eq_true_eq]
  rintro rfl
  rcases List.mem_cons.mp hmem with hslash | hmem
  · exact absurd hslash (by decide)
  · exact (h s hs).2 hmem

/-- The text of a path of plain segments. -/
theorem toList_pathOf {segs : List String} (h : ∀ s ∈ segs, Plain s) :
    (pathOf segs).toList = pathNoQuery (pathOf segs) := by
  rw [pathNoQuery_pathOf h, pathOf, String.toList_ofList]

/-- The segments of a path of plain segments. -/
theorem segments_pathOf {segs : List String} (h : ∀ s ∈ segs, Plain s) :
    segments (pathNoQuery (pathOf segs)) = [] :: segs.map String.toList := by
  have hflat : (segs.flatMap fun s ↦ '/' :: s.toList) =
      (segs.map String.toList).flatMap fun s ↦ '/' :: s := by
    rw [List.flatMap_map]
  rw [pathNoQuery_pathOf h, hflat, segments_flatMap]
  intro s hs
  obtain ⟨t, ht, rfl⟩ := List.mem_map.mp hs
  exact (h t ht).1

/-- A segment of a path of plain segments, decoded. -/
theorem pathPart_pathOf {segs : List String} (h : ∀ s ∈ segs, Plain s) (i : Nat) :
    pathPart (pathOf segs) (i + 1) = segs[i]?.map fun s ↦ plainSpaces (Percent.unquote s) := by
  rw [pathPart, segments_pathOf h, List.getElem?_cons_succ, List.getElem?_map, Option.map_map]
  simp only [Function.comp_def, String.ofList_toList]

end LcpGateway.Server.Routes
