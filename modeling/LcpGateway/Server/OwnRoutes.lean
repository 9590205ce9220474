import LcpGateway.Server.Routes

/-!
# The paths of a profile

Library `Server`. Sources `src/server/handler.py:251–305,721–776,884–1192`. A profile has paths of
its own: a dashboard, a listing, its memory and the completions. They are told apart from the
pages by their name alone, so that a few names lose paths to pages.
-/

namespace LcpGateway.Server.Routes
open LcpGateway.Base LcpGateway.Config

/-! ## Paths that are known but for a name -/

/-- A segment that is none of some texts. -/
def noneOf (texts : List String) : Piece := .other (texts.map String.toList) []

/-- Paths of a method whose segments are known, and the first rule that may take one. -/
structure Family where
  method : Method
  name : Piece
  behind : List String
  rule : Option Rule

/-- The outline of the paths. -/
def Family.outline (f : Family) : Outline := .closedOn (text "" :: f.name :: f.behind.map text)

/-- The rule of `/keys/dashboard`. -/
def keysRule : Rule := ⟨.get, "page.keys", .exact ["/keys", "/keys/dashboard"], []⟩

/-- The rule of `/profiles/{name}`. -/
def profileRule : Rule := ⟨.get, "page.profile.detail", .regex [.lit "profiles", .any], [2]⟩

/-- The rule of `/{profile}/dashboard`. -/
def dashboardRule : Rule := ⟨.get, "page.dashboard.profile", .endsWith "/dashboard", []⟩

/-- The rule of `/v1/models`. -/
def listRule : Rule := ⟨.get, "models.list", .exact defaultModelsPaths, []⟩

/-- The rule of `/{profile}/v1/models` and `/{profile}/models`. -/
def listingRule : Rule :=
  ⟨.get, "models.list.profile", .anyOf (defaultModelsPaths.map fun q ↦ "/" ++ lstripSlash q), []⟩

/-- The rule of static files. -/
def staticRule : Rule := ⟨.get, "static", .startsWith "/static/", []⟩

/-- The rule of the error log. -/
def errorsRule : Rule := ⟨.get, "errors", .startsWith "/errors", []⟩

/-- The rule of `/{profile}/memory/count`. -/
def countRule : Rule := ⟨.get, "memory.count", .regex [.any, .lit "memory", .lit "count"], []⟩

/-- The rule of the other paths of a profile's memory. -/
def writeRule : Rule :=
  ⟨.post, "memory.write", .regex [.any, .lit "memory", .choice ["retain", "recall", "forget"]], []⟩

/-- Dashboards of profiles. -/
def dashboards : Family := ⟨.get, noneOf ["keys", "profiles"], ["dashboard"], some dashboardRule⟩

/-- Listings of profiles. -/
def listings : Family := ⟨.get, noneOf ["profiles", "v1"], ["models"], some listingRule⟩

/-- Listings of profiles under the longer path. -/
def longListings : Family := ⟨.get, noneOf [], ["v1", "models"], some listingRule⟩

/-- Counts of memories of profiles. -/
def counts : Family :=
  ⟨.get, .other ["static".toList] ["errors".toList], ["memory", "count"], some countRule⟩

/-- Other paths of memories. -/
def writes (action : String) : Family := ⟨.post, noneOf [], ["memory", action], some writeRule⟩

/-- Paths of the proxy. -/
def completions (behind : List String) : Family := ⟨.post, noneOf [], behind, none⟩

/-- The path of the keys page. -/
def keysPath : Family := ⟨.get, text "keys", ["dashboard"], some keysRule⟩

/-- The path of the page of a profile. -/
def profilePath : Family := ⟨.get, text "profiles", ["dashboard"], some profileRule⟩

/-- The path of the listing of all profiles. -/
def listPath : Family := ⟨.get, text "v1", ["models"], some listRule⟩

/-- A path of a static file. -/
def staticPath : Family := ⟨.get, text "static", ["memory", "count"], some staticRule⟩

/-- Paths of the error log. -/
def errorsPaths : Family := ⟨.get, .begins "errors".toList, ["memory", "count"], some errorsRule⟩

/-- The paths below. -/
def families : List Family := [dashboards, listings, longListings, counts, writes "retain",
  writes "recall", writes "forget", completions ["chat", "completions"],
  completions ["v1", "chat", "completions"], keysPath, profilePath, listPath, staticPath,
  errorsPaths]

/-- The first candidate for each of them. -/
theorem head?_candidates : ∀ f ∈ families,
    (candidates (buildRoutes defaultModelsPaths) f.method f.outline).head? = f.rule := by
  have hall : families.all (fun f ↦ (candidates (buildRoutes defaultModelsPaths) f.method
      f.outline).head? = f.rule) = true := by
    decide +kernel
  exact fun f hf ↦ of_decide_eq_true (List.all_eq_true.mp hall f hf)

/-- The segments behind the names hold no separators. -/
theorem plain_behind : ∀ f ∈ families, ∀ s ∈ f.behind, Plain s := by
  decide +kernel

/-- The rule that runs a request, on the default listing paths. -/
def ruleOf (method : Method) (path : String) : Option String :=
  (dispatch (buildRoutes defaultModelsPaths) method path).map (·.name)

section Families

variable {f : Family} {p : String}

/-- A path of the family. -/
theorem fits_outline (hf : f ∈ families) (hp : Plain p) (hname : f.name.fits p.toList = true) :
    f.outline.fits (segments (pathNoQuery (pathOf (p :: f.behind)))) = true := by
  rw [segments_pathOf (List.forall_mem_cons.mpr ⟨hp, plain_behind f hf⟩), Family.outline,
    Outline.fits_closedOn_iff]
  exact .cons (by simp [text, Piece.fits]) (.cons hname (fits_texts f.behind))

/-- The rule of a family runs the paths it takes. -/
theorem ruleOf_of_rule {r : Rule} (hf : f ∈ families) (hp : Plain p)
    (hname : f.name.fits p.toList = true) (hrule : f.rule = some r)
    (htakes : r.matcher.takes (pathNoQuery (pathOf (p :: f.behind))) = true) :
    ruleOf f.method (pathOf (p :: f.behind)) = some r.name := by
  have hfirst := (head?_candidates f hf).trans hrule
  rw [ruleOf, dispatch_of_candidate hfirst (fits_outline hf hp hname) htakes]
  rfl

/-- Without a rule for a family no rule runs its paths. -/
theorem ruleOf_of_noRule (hf : f ∈ families) (hp : Plain p) (hname : f.name.fits p.toList = true)
    (hrule : f.rule = none) : ruleOf f.method (pathOf (p :: f.behind)) = none := by
  have hfirst := (head?_candidates f hf).trans hrule
  rw [ruleOf, dispatch_of_noCandidate hfirst (fits_outline hf hp hname)]
  rfl

end Families

/-! ## The paths of a profile -/

/-- The paths a profile has of its own, with the rule that is to serve them. -/
def ownRoutes : List (Method × List String × Option String) := [
  (.get, ["dashboard"], some "page.dashboard.profile"),
  (.get, ["models"], some "models.list.profile"),
  (.get, ["v1", "models"], some "models.list.profile"),
  (.get, ["memory", "count"], some "memory.count"),
  (.post, ["memory", "retain"], some "memory.write"),
  (.post, ["memory", "recall"], some "memory.write"),
  (.post, ["memory", "forget"], some "memory.write"),
  (.post, ["chat", "completions"], none),
  (.post, ["v1", "chat", "completions"], none)]

section Takes

variable {p : String} {behind : List String}

/-- What stands behind the name ends the path. -/
theorem endsWith_own (hp : Plain p) (hbehind : ∀ s ∈ behind, Plain s) {suf : String}
    (hsuf : suf.toList = behind.flatMap fun s ↦ '/' :: s.toList) :
    (Matcher.endsWith suf).takes (pathNoQuery (pathOf (p :: behind))) = true := by
  rw [Matcher.takes, List.isSuffixOf_iff_suffix,
    pathNoQuery_pathOf (List.forall_mem_cons.mpr ⟨hp, hbehind⟩), hsuf, List.flatMap_cons]
  exact List.suffix_append _ _

/-- A listing path ends the path. -/
theorem listed_own (hp : Plain p) (hbehind : ∀ s ∈ behind, Plain s)
    (hlisted : String.ofList (behind.flatMap fun s ↦ '/' :: s.toList) ∈
      defaultModelsPaths.map fun q ↦ "/" ++ lstripSlash q) :
    listingRule.matcher.takes (pathNoQuery (pathOf (p :: behind))) = true :=
  List.any_eq_true.mpr ⟨_, hlisted, endsWith_own hp hbehind (String.toList_ofList)⟩

/-- Any name in front of the memory is taken. -/
theorem memory_own (hne : p ≠ "") (hp : Plain p) {action : String} (haction : Plain action)
    {last : SegmentPattern} (hlast : last.lastPiece.fits action.toList = true) :
    (Matcher.regex [.any, .lit "memory", last]).takes
      (pathNoQuery (pathOf [p, "memory", action])) = true := by
  have hname : (SegmentPattern.any.piece).fits p.toList = true := by
    simp [SegmentPattern.piece, Piece.fits, String.toList_eq_nil_iff, hne]
  have hmemory : (SegmentPattern.piece (.lit "memory")).fits "memory".toList = true := by
    simp [SegmentPattern.piece, Piece.fits]
  have hplain : ∀ s ∈ [p, "memory", action], Plain s := by
    simp [hp, haction]
    decide
  rw [Matcher.takes, segments_pathOf hplain, patternOutline, Outline.fits_closedOn_iff]
  exact .cons (by simp [Piece.fits]) (.cons hname (.cons hmemory (.cons hlast .nil)))

end Takes

/-- A name fits the piece that excludes others, and a beginning. -/
theorem fits_other {p : String} {names : List String} {starts : List (List Char)}
    (hnames : p ∉ names) (hstarts : starts.any (·.isPrefixOf p.toList) = false) :
    (Piece.other (names.map String.toList) starts).fits p.toList = true := by
  have hnot : p.toList ∉ names.map String.toList := by
    intro hmem
    obtain ⟨q, hq, heq⟩ := List.mem_map.mp hmem
    exact hnames (String.toList_inj.mp heq ▸ hq)
  simp [Piece.fits, hnot, hstarts]

/-- A profile is served under all its paths exactly when its name is none of four and does not
begin with `errors`: the pages of those names stand in front of it. -/
theorem ownRoutes_iff {p : String} (hne : p ≠ "") (hp : Plain p) :
    (∀ method behind rule, (method, behind, rule) ∈ ownRoutes →
        ruleOf method (pathOf (p :: behind)) = rule) ↔
      p ∉ ["keys", "profiles", "v1", "static"] ∧ startsWith "errors" p = false := by
  constructor
  · intro h
    have hdashboard := h .get ["dashboard"] (some "page.dashboard.profile") (by simp [ownRoutes])
    have hmodels := h .get ["models"] (some "models.list.profile") (by simp [ownRoutes])
    have hcount := h .get ["memory", "count"] (some "memory.count") (by simp [ownRoutes])
    constructor
    · intro hmem
      simp only [List.mem_cons, List.not_mem_nil, or_false] at hmem
      rcases hmem with rfl | rfl | rfl | rfl
      · have hpage := ruleOf_of_rule (f := keysPath) (by simp [families]) hp (by decide +kernel) rfl
          (by decide +kernel)
        exact absurd (hpage.symm.trans hdashboard) (by decide)
      · have hpage := ruleOf_of_rule (f := profilePath) (by simp [families]) hp
          (by decide +kernel) rfl (by decide +kernel)
        exact absurd (hpage.symm.trans hdashboard) (by decide)
      · have hpage := ruleOf_of_rule (f := listPath) (by simp [families]) hp (by decide +kernel) rfl
          (by decide +kernel)
        exact absurd (hpage.symm.trans hmodels) (by decide)
      · have hpage := ruleOf_of_rule (f := staticPath) (by simp [families]) hp
          (by decide +kernel) rfl (by decide +kernel)
        exact absurd (hpage.symm.trans hcount) (by decide)
    · by_contra hstart
      rw [Bool.not_eq_false] at hstart
      have htakes : (Matcher.startsWith "/errors").takes
          (pathNoQuery (pathOf [p, "memory", "count"])) = true := by
        have hplain : ∀ s ∈ [p, "memory", "count"], Plain s :=
          List.forall_mem_cons.mpr ⟨hp, by decide +kernel⟩
        have htext : "/errors".toList = '/' :: "errors".toList := by decide +kernel
        rw [startsWith, List.isPrefixOf_iff_prefix] at hstart
        rw [Matcher.takes, pathNoQuery_pathOf hplain, List.isPrefixOf_iff_prefix, htext,
          List.flatMap_cons, List.cons_append]
        exact (List.prefix_cons_inj '/').mpr (hstart.trans (List.prefix_append _ _))
      have hpage := ruleOf_of_rule (f := errorsPaths) (by simp [families]) hp hstart rfl htakes
      exact absurd (hpage.symm.trans hcount) (by decide)
  · rintro ⟨hnames, hstart⟩ method behind rule hroute
    have hany : (noneOf []).fits p.toList = true := fits_other (by simp) rfl
    simp only [List.mem_cons, List.not_mem_nil, or_false, not_or] at hnames
    obtain ⟨hkeys, hprofiles, hv1, hstatic⟩ := hnames
    simp only [ownRoutes, List.mem_cons, List.not_mem_nil, or_false, Prod.mk.injEq] at hroute
    rcases hroute with ⟨rfl, rfl, rfl⟩ | ⟨rfl, rfl, rfl⟩ | ⟨rfl, rfl, rfl⟩ | ⟨rfl, rfl, rfl⟩ |
      ⟨rfl, rfl, rfl⟩ | ⟨rfl, rfl, rfl⟩ | ⟨rfl, rfl, rfl⟩ | ⟨rfl, rfl, rfl⟩ | ⟨rfl, rfl, rfl⟩
    · exact ruleOf_of_rule (f := dashboards) (by simp [families]) hp
        (fits_other (by simp [hkeys, hprofiles]) rfl) rfl
        (endsWith_own hp (by decide +kernel) (by decide +kernel))
    · exact ruleOf_of_rule (f := listings) (by simp [families]) hp
        (fits_other (by simp [hprofiles, hv1]) rfl) rfl
        (listed_own hp (by decide +kernel) (by decide +kernel))
    · exact ruleOf_of_rule (f := longListings) (by simp [families]) hp hany rfl
        (listed_own hp (by decide +kernel) (by decide +kernel))
    · have hstarts : ["errors".toList].any (·.isPrefixOf p.toList) = false := by
        simpa [startsWith] using hstart
      exact ruleOf_of_rule (f := counts) (by simp [families]) hp
        (fits_other (by simp [hstatic] : p ∉ ["static"]) hstarts) rfl
        (memory_own hne hp (by decide +kernel) (by decide +kernel))
    · exact ruleOf_of_rule (f := writes "retain") (by simp [families]) hp hany rfl
        (memory_own hne hp (by decide +kernel) (by decide +kernel))
    · exact ruleOf_of_rule (f := writes "recall") (by simp [families]) hp hany rfl
        (memory_own hne hp (by decide +kernel) (by decide +kernel))
    · exact ruleOf_of_rule (f := writes "forget") (by simp [families]) hp hany rfl
        (memory_own hne hp (by decide +kernel) (by decide +kernel))
    · exact ruleOf_of_noRule (f := completions ["chat", "completions"]) (by simp [families]) hp hany
        rfl
    · exact ruleOf_of_noRule (f := completions ["v1", "chat", "completions"]) (by simp [families])
        hp hany rfl

-- the paths of a profile that is named like no page
theorem ownRoutes_coder :
    ruleOf .get (pathOf ["coder", "memory", "count"]) = some "memory.count" ∧
      ruleOf .post (pathOf ["coder", "chat", "completions"]) = none := by
  have hown := (ownRoutes_iff (p := "coder") (by decide) (by decide +kernel)).mpr
    ⟨by decide, by decide +kernel⟩
  exact ⟨hown .get _ _ (by simp [ownRoutes]), hown .post _ _ (by simp [ownRoutes])⟩

/-! ## The proxy behind the table -/

/-- The rule of `/api/setup/install/{kind}/{name}`. -/
def installRule : Rule := ⟨.post, "api.setup.install",
  .regex [.lit "api", .lit "setup", .lit "install", .any, .any], [4, 5]⟩

/-- The rule of `/api/circuit-breaker/reset`. -/
def resetRule : Rule :=
  ⟨.post, "api.circuit-breaker.reset", .startsWith "/api/circuit-breaker/reset", []⟩

/-- The rules that may take a completions path. -/
theorem candidates_completions :
    candidates (pageRules ++ apiRules) .post ⟨[], ending "/chat/completions".toList, false⟩ =
      [installRule, resetRule] := by
  decide +kernel

/-- The only path that is taken for an install and is one of completions. -/
theorem install_takes_iff {path : List Char} (h : "/chat/completions".toList <:+ path) :
    installRule.matcher.takes path = true ↔
      path = "/api/setup/install/chat/completions".toList := by
  constructor
  · intro htakes
    obtain ⟨rest, rfl⟩ := h
    have htext : "/chat/completions".toList = '/' :: "chat/completions".toList := by
      decide +kernel
    have hbehind : segments "chat/completions".toList =
        ["chat".toList, "completions".toList] := by
      decide +kernel
    have hback : ['/'].intercalate (segments rest) = rest := List.intercalate_splitOn '/'
    rw [installRule, Matcher.takes, patternOutline, Outline.fits_closedOn_iff, htext,
      segments_slash, hbehind] at htakes
    generalize segments rest = front at htakes hback
    have hlength : front.length = 4 := by
      have hall := htakes.length_eq
      simp only [patternPieces, List.length_cons, List.length_nil, List.length_append] at hall
      omega
    obtain ⟨a, front, rfl⟩ := List.exists_of_length_succ front hlength
    obtain ⟨b, front, rfl⟩ := List.exists_of_length_succ front (Nat.succ.inj hlength)
    obtain ⟨c, front, rfl⟩ := List.exists_of_length_succ front (Nat.succ.inj (Nat.succ.inj hlength))
    obtain ⟨d, rfl⟩ := List.length_eq_one_iff.mp
      (Nat.succ.inj (Nat.succ.inj (Nat.succ.inj hlength)))
    simp only [patternPieces, List.cons_append, List.forall₂_cons, SegmentPattern.piece, Piece.fits,
      List.contains_cons, List.contains_nil, Bool.or_false, beq_iff_eq] at htakes
    obtain ⟨rfl, rfl, rfl, rfl, -⟩ := htakes
    rw [← hback]
    decide +kernel
  · rintro rfl
    decide +kernel

/-- A POST to completions goes past the table to the proxy, whatever stands in front, unless it
begins like the reset of the breakers or is an install by its words. -/
theorem dispatch_completions_iff (modelsPaths : List String) {path : String}
    (h : "/chat/completions".toList <:+ pathNoQuery path) :
    dispatch (buildRoutes modelsPaths) .post path = none ↔
      ¬ "/api/circuit-breaker/reset".toList <+: pathNoQuery path ∧
        pathNoQuery path ≠ "/api/setup/install/chat/completions".toList := by
  have hfits : (⟨[], ending "/chat/completions".toList, false⟩ : Outline).fits
      (segments (pathNoQuery path)) = true := by
    simp only [Outline.fits, fitFront, fitFront_ending h, Bool.not_false, Bool.true_or,
      Bool.and_self]
  rw [dispatch_post, dispatch, ← find?_candidates _ hfits, candidates_completions,
    Option.map_eq_none_iff, List.find?_eq_none, List.forall_mem_cons, List.forall_mem_singleton,
    install_takes_iff h, resetRule, Matcher.takes, List.isPrefixOf_iff_prefix]
  exact and_comm

-- a client that leaves the profile out of the path
theorem dispatch_completions_plain :
    dispatch (buildRoutes defaultModelsPaths) .post "/v1/chat/completions" = none :=
  (dispatch_completions_iff defaultModelsPaths (by decide +kernel)).mpr
    ⟨by decide +kernel, by decide +kernel⟩

end LcpGateway.Server.Routes
