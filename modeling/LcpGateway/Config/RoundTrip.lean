import LcpGateway.Config.Spellings

/-!
# Ids that lead back

Library `Config`. Source `src/api/router.py:447–536`. An id leads back to its entry when no other
entry has taken it: an entry named so, or one in front that declares it. A write keeps this for
the ids of all entries under a condition on the written entry and the entries around its place.
-/

namespace LcpGateway.Config
open LcpGateway.Base

/-- The key an id is looked up under. -/
def idKey (id : String) : String := lower (strip id)

/-- An entry that finds itself under its ids: it is named so, or declares them. -/
def FindsItself (e : String × RegistryEntry) : Prop :=
  e.1 ≠ "" ∧ ∀ id ∈ e.2.values, idKey id = e.1 ∨ declares (idKey id) e = true

/-- The ids of an entry that the name of another one takes. -/
def NotNamed (e other : String × RegistryEntry) : Prop :=
  ∀ id ∈ e.2.values, other.1 = idKey id → other.1 = e.1

/-- The ids of an entry that an earlier one takes. -/
def NotDeclared (earlier e : String × RegistryEntry) : Prop :=
  ∀ id ∈ e.2.values, declares (idKey id) earlier = true → idKey id = e.1

/-- No id is taken. -/
structure Untaken (entries : List (String × RegistryEntry)) : Prop where
  itself : ∀ e ∈ entries, FindsItself e
  names : ∀ e ∈ entries, ∀ other ∈ entries, NotNamed e other
  order : entries.Pairwise NotDeclared

/-- The written entry takes no id and none of its ids is taken. -/
structure TakesNone (front behind : List (String × RegistryEntry))
    (written : String × RegistryEntry) : Prop where
  itself : FindsItself written
  named : ∀ other ∈ front ++ behind, NotNamed written other
  names : ∀ other ∈ front ++ behind, NotNamed other written
  earlier : ∀ other ∈ front, NotDeclared other written
  later : ∀ other ∈ behind, NotDeclared written other

/-- After a write no id is taken when none was among the others and the write takes none. -/
theorem untaken_write_iff (front behind : List (String × RegistryEntry))
    (written : String × RegistryEntry) :
    Untaken (front ++ written :: behind) ↔
      Untaken (front ++ behind) ∧ TakesNone front behind written := by
  have hself : NotNamed written written := fun _ _ _ ↦ rfl
  constructor
  · intro h
    have hmem : ∀ e ∈ front ++ behind, e ∈ front ++ written :: behind := by
      intro e he
      simp only [List.mem_append, List.mem_cons] at he ⊢
      tauto
    have hwritten : written ∈ front ++ written :: behind := by simp
    have horder := List.pairwise_append.mp h.order
    have hbehind := List.pairwise_cons.mp horder.2.1
    constructor
    · exact ⟨fun e he ↦ h.itself e (hmem e he),
        fun e he other ho ↦ h.names e (hmem e he) other (hmem other ho),
        List.pairwise_append.mpr ⟨horder.1, hbehind.2, fun a ha b hb ↦
          horder.2.2 a ha b (List.mem_cons_of_mem _ hb)⟩⟩
    · exact ⟨h.itself written hwritten,
        fun other ho ↦ h.names written hwritten other (hmem other ho),
        fun other ho ↦ h.names other (hmem other ho) written hwritten,
        fun other ho ↦ horder.2.2 other ho written List.mem_cons_self,
        fun other ho ↦ hbehind.1 other ho⟩
  · rintro ⟨h, hwrite⟩
    have hsplit : ∀ e ∈ front ++ written :: behind, e = written ∨ e ∈ front ++ behind := by
      intro e he
      simp only [List.mem_append, List.mem_cons] at he ⊢
      tauto
    have horder := List.pairwise_append.mp h.order
    constructor
    · intro e he
      obtain rfl | hrest := hsplit e he
      · exact hwrite.itself
      · exact h.itself e hrest
    · intro e he other ho
      obtain heq | hrest := hsplit e he
      · subst heq
        obtain heq | horest := hsplit other ho
        · exact heq ▸ hself
        · exact hwrite.named other horest
      · obtain heq | horest := hsplit other ho
        · exact heq ▸ hwrite.names e hrest
        · exact h.names e hrest other horest
    · refine List.pairwise_append.mpr ⟨horder.1,
        List.pairwise_cons.mpr ⟨hwrite.later, horder.2.1⟩, fun a ha b hb ↦ ?_⟩
      obtain rfl | hb := List.mem_cons.mp hb
      · exact hwrite.earlier a ha
      · exact horder.2.2 a ha b hb

/-- Ids stay untaken when entries go. -/
theorem Untaken.sublist {entries rest : List (String × RegistryEntry)} (h : Untaken entries)
    (hsub : rest.Sublist entries) : Untaken rest :=
  ⟨fun e he ↦ h.itself e (hsub.subset he),
    fun e he other ho ↦ h.names e (hsub.subset he) other (hsub.subset ho), h.order.sublist hsub⟩

namespace Registry

variable {registry : Registry}

/-- The names are normalized, as an accepted write leaves them. -/
def NamesFlat (registry : Registry) : Prop := ∀ e ∈ registry.entries, Flat e.1

/-- Every id of an entry resolves to the entry. -/
def RoundTrips (registry : Registry) : Prop :=
  ∀ name entry, registry.get? name = some entry → ∀ provider ∈ entry.providerMappings.entries.map
    Prod.fst, registry.logicalModelName (registry.providerModelName name provider) = name

/-- The ids that providers are asked for are those of the entries. -/
theorem roundTrips_iff :
    registry.RoundTrips ↔
      ∀ e ∈ registry.entries, ∀ id ∈ e.2.values, registry.logicalModelName id = e.1 := by
  have hid : ∀ (name provider : String) (entry : RegistryEntry) (id : String),
      registry.get? name = some entry → entry.providerMappings.get? provider = some id →
      registry.providerModelName name provider = id := by
    intro name provider entry id hentry hprovider
    simp [providerModelName, hentry, hprovider]
  constructor
  · intro h e he id hmem
    obtain ⟨⟨provider, id⟩, hpair, rfl⟩ := List.mem_map.mp hmem
    have hentry := (registry.mem_entries_iff e.1 e.2).mp he
    have hprovider := (e.2.providerMappings.mem_entries_iff provider id).mp hpair
    have hback := h e.1 e.2 hentry provider (List.mem_map_of_mem hpair)
    rwa [hid e.1 provider e.2 id hentry hprovider] at hback
  · intro h name entry hentry provider hmem
    obtain ⟨⟨provider, id⟩, hpair, rfl⟩ := List.mem_map.mp hmem
    have hprovider := (entry.providerMappings.mem_entries_iff provider id).mp hpair
    rw [hid name provider entry id hentry hprovider]
    exact h (name, entry) ((registry.mem_entries_iff name entry).mpr hentry) id
      (List.mem_map_of_mem hpair)

/-! ### What a key stands for -/

/-- Flat names are their own keys. -/
theorem namedSo_iff (hflat : registry.NamesFlat) {e : String × RegistryEntry}
    (hmem : e ∈ registry.entries) (key : String) : namedSo key e = true ↔ e.1 = key := by
  simp [namedSo, (hflat e hmem).lowered]

/-- The name of an entry stands for the entry. -/
theorem declaredName_of_named (hflat : registry.NamesFlat) {e : String × RegistryEntry}
    (hmem : e ∈ registry.entries) : registry.declaredName e.1 = some e.1 := by
  have hnamed : namedSo e.1 e = true := (namedSo_iff hflat hmem e.1).mpr rfl
  obtain ⟨last, hlast⟩ := Option.isSome_iff_exists.mp
    (List.find?_isSome.mpr ⟨e, List.mem_reverse.mpr hmem, hnamed⟩)
  have hname := (namedSo_iff hflat (List.mem_reverse.mp (List.mem_of_find?_eq_some hlast)) e.1).mp
    (List.find?_some hlast)
  rw [declaredName, hlast, Option.some_or, Option.map_some, hname]

/-- A key that is no name stands for the first entry that declares it. -/
theorem declaredName_of_declares (hflat : registry.NamesFlat) {key : String}
    (hnamed : ∀ e ∈ registry.entries, e.1 ≠ key) {e : String × RegistryEntry}
    (hmem : e ∈ registry.entries) (hdeclares : declares key e = true) :
    ∃ first, registry.entries.find? (declares key) = some first ∧
      registry.declaredName key = some first.1 := by
  have hnone : registry.entries.reverse.find? (namedSo key) = none := by
    rw [List.find?_eq_none]
    intro x hx h
    have hx := List.mem_reverse.mp hx
    exact hnamed x hx ((namedSo_iff hflat hx key).mp h)
  obtain ⟨first, hfirst⟩ := Option.isSome_iff_exists.mp
    (List.find?_isSome.mpr ⟨e, hmem, hdeclares⟩)
  refine ⟨first, hfirst, ?_⟩
  rw [declaredName, hnone, Option.none_or, hfirst, Option.some_or, Option.map_some]

theorem owner_eq_some_iff {key name : String} :
    registry.owner key = some name ↔ registry.declaredName key = some name ∧ name ≠ "" := by
  rw [owner, Option.filter_eq_some_iff]
  simp

/-- An entry stands behind the first that declares a key, or is that one. -/
private theorem first_or_related {α : Type} {R : α → α → Prop} {p : α → Bool} {l : List α}
    (hpair : l.Pairwise R) {first a : α} (hfirst : l.find? p = some first) (hmem : a ∈ l)
    (ha : p a = true) : first = a ∨ R first a := by
  obtain ⟨-, before, after, rfl, hbefore⟩ := List.find?_eq_some_iff_append.mp hfirst
  obtain hmem | hmem := List.mem_append.mp hmem
  · have hnot := hbefore a hmem
    simp [ha] at hnot
  · obtain rfl | hmem := List.mem_cons.mp hmem
    · exact .inl rfl
    · right
      exact (List.pairwise_cons.mp (List.pairwise_append.mp hpair).2.1).1 a hmem

/-- An untaken id stands for its entry. -/
theorem owner_idKey (hflat : registry.NamesFlat) (h : Untaken registry.entries)
    {e : String × RegistryEntry} (hmem : e ∈ registry.entries) {id : String}
    (hid : id ∈ e.2.values) : registry.owner (idKey id) = some e.1 := by
  obtain ⟨hname, hitself⟩ := h.itself e hmem
  rw [owner_eq_some_iff]
  refine ⟨?_, hname⟩
  by_cases hnamed : ∃ other ∈ registry.entries, other.1 = idKey id
  · obtain ⟨other, ho, hkey⟩ := hnamed
    rw [← hkey, declaredName_of_named hflat ho, h.names e hmem other ho id hid hkey]
  · push Not at hnamed
    have hdeclares : declares (idKey id) e = true :=
      (hitself id hid).resolve_left fun hkey ↦ hnamed e hmem hkey.symm
    obtain ⟨first, hfirst, hfound⟩ := declaredName_of_declares hflat hnamed hmem hdeclares
    obtain rfl | hearlier := first_or_related h.order hfirst hmem hdeclares
    · exact hfound
    · exact absurd (hearlier id hid (List.find?_some hfirst)).symm (hnamed e hmem)

/-- An entry that finds itself has no empty id. -/
theorem ne_empty_of_findsItself {e : String × RegistryEntry} (h : FindsItself e) {id : String}
    (hid : id ∈ e.2.values) : id ≠ "" := by
  rintro rfl
  obtain hkey | hkey := h.2 "" hid
  · exact h.1 hkey.symm
  · exact h.1 (name_of_spelling_empty (.declared hkey))

/-- Untaken ids lead back. -/
theorem roundTrips_of_untaken (hflat : registry.NamesFlat) (h : Untaken registry.entries) :
    registry.RoundTrips := by
  rw [roundTrips_iff]
  intro e hmem id hid
  rw [logicalModelName_eq_iff (ne_empty_of_findsItself (h.itself e hmem) hid)]
  exact .whole (owner_idKey hflat h hmem hid)

/-- A declared id that leads back stands for its entry, when all entries have names. -/
theorem owner_of_leads {name id : String} (hid : registry.Leads name id) {other : String}
    (hfound : registry.declaredName (idKey id) = some other) (hother : other ≠ "") :
    other = name := by
  have howner : registry.owner (idKey id) = some other := owner_eq_some_iff.mpr ⟨hfound, hother⟩
  obtain h | ⟨h, -, -⟩ | ⟨h, -, -⟩ := hid
  · exact Option.some.inj (howner.symm.trans h)
  · exact nomatch howner.symm.trans h
  · exact nomatch howner.symm.trans h

/-! ### What leads back is not taken -/

/-- Where ids lead back, what an id's key stands for is the id's entry. -/
theorem name_of_roundTrips (h : registry.RoundTrips) (hnames : ∀ e ∈ registry.entries, e.1 ≠ "")
    {e : String × RegistryEntry} (hmem : e ∈ registry.entries) {id : String}
    (hid : id ∈ e.2.values) (hne : id ≠ "") {other : String × RegistryEntry}
    (ho : other ∈ registry.entries) (hfound : registry.declaredName (idKey id) = some other.1) :
    other.1 = e.1 := by
  have hleads := (logicalModelName_eq_iff hne).mp (roundTrips_iff.mp h e hmem id hid)
  exact owner_of_leads hleads hfound (hnames other ho)

/-- No name takes an id that leads back. -/
theorem notNamed_of_roundTrips (hflat : registry.NamesFlat) (h : registry.RoundTrips)
    (hnames : ∀ e ∈ registry.entries, e.1 ≠ "") {e other : String × RegistryEntry}
    (hmem : e ∈ registry.entries) (hne : ∀ id ∈ e.2.values, id ≠ "")
    (ho : other ∈ registry.entries) : NotNamed e other := by
  intro id hid hkey
  apply name_of_roundTrips h hnames hmem hid (hne id hid) ho
  rw [← hkey]
  exact declaredName_of_named hflat ho

/-- No earlier entry takes an id that leads back. -/
theorem notDeclared_of_roundTrips (hflat : registry.NamesFlat) (h : registry.RoundTrips)
    (hnames : ∀ e ∈ registry.entries, e.1 ≠ "") {front behind : List (String × RegistryEntry)}
    (hentries : registry.entries = front ++ behind) {earlier e : String × RegistryEntry}
    (hearlier : earlier ∈ front) (he : e ∈ behind) (hne : ∀ id ∈ e.2.values, id ≠ "") :
    NotDeclared earlier e := by
  intro id hid hdeclares
  have hmem : e ∈ registry.entries := hentries ▸ List.mem_append_right front he
  have hmem' : earlier ∈ registry.entries := hentries ▸ List.mem_append_left behind hearlier
  by_cases hnamed : ∃ other ∈ registry.entries, other.1 = idKey id
  · obtain ⟨other, ho, hkey⟩ := hnamed
    rw [← hkey]
    exact notNamed_of_roundTrips hflat h hnames hmem hne ho id hid hkey
  · push Not at hnamed
    obtain ⟨first, hfirst, hfound⟩ := declaredName_of_declares hflat hnamed hmem' hdeclares
    have hsame := name_of_roundTrips h hnames hmem hid (hne id hid)
      (List.mem_of_find?_eq_some hfirst) hfound
    -- the first to declare the key stands in front, where the entry of the id does not
    have hfront : first ∈ front := by
      obtain ⟨x, hx⟩ := Option.isSome_iff_exists.mp
        (List.find?_isSome.mpr ⟨earlier, hearlier, hdeclares⟩)
      rw [hentries, List.find?_append, hx, Option.some_or] at hfirst
      exact Option.some.inj hfirst ▸ List.mem_of_find?_eq_some hx
    have hnodup := registry.nodup
    rw [hentries, List.map_append] at hnodup
    exact absurd (hsame ▸ List.mem_map_of_mem he)
      (fun hmem ↦ List.disjoint_of_nodup_append hnodup (List.mem_map_of_mem hfront) hmem)

/-- When the other ids are untaken, the ids after a write lead back exactly if it takes none. -/
theorem roundTrips_write_iff {front behind : List (String × RegistryEntry)}
    {written : String × RegistryEntry} (hentries : registry.entries = front ++ written :: behind)
    (hflat : registry.NamesFlat) (h : Untaken (front ++ behind)) (hname : written.1 ≠ "")
    (hids : ∀ id ∈ written.2.values, id ≠ "" ∧ strip id = id) :
    registry.RoundTrips ↔ TakesNone front behind written := by
  have hsplit : ∀ e ∈ registry.entries, e = written ∨ e ∈ front ++ behind := by
    intro e he
    rw [hentries] at he
    simp only [List.mem_append, List.mem_cons] at he ⊢
    tauto
  have hmem : ∀ e ∈ front ++ behind, e ∈ registry.entries := by
    intro e he
    rw [hentries]
    simp only [List.mem_append, List.mem_cons] at he ⊢
    tauto
  have hwritten : written ∈ registry.entries := by simp [hentries]
  constructor
  · intro hback
    have hnames : ∀ e ∈ registry.entries, e.1 ≠ "" := by
      intro e he
      obtain rfl | hrest := hsplit e he
      · exact hname
      · exact (h.itself e hrest).1
    have hne : ∀ e ∈ front ++ behind, ∀ id ∈ e.2.values, id ≠ "" := fun e he id hid ↦
      ne_empty_of_findsItself (h.itself e he) hid
    have hne' : ∀ id ∈ written.2.values, id ≠ "" := fun id hid ↦ (hids id hid).1
    refine ⟨⟨hname, fun id hid ↦ .inr ?_⟩, fun other ho ↦ ?_, fun other ho ↦ ?_,
      fun other ho ↦ ?_, fun other ho ↦ ?_⟩
    · have hdeclared : (written.2.values.any fun v ↦ v ≠ "" && lower v = idKey id) = true := by
        rw [List.any_eq_true]
        exact ⟨id, hid, by simp [hne' id hid, idKey, (hids id hid).2]⟩
      simp only [declares, Bool.or_eq_true]
      exact .inr hdeclared
    · exact notNamed_of_roundTrips hflat hback hnames hwritten hne' (hmem other ho)
    · exact notNamed_of_roundTrips hflat hback hnames (hmem other ho) (hne other ho) hwritten
    · exact notDeclared_of_roundTrips hflat hback hnames hentries ho List.mem_cons_self hne'
    · have hentries' : registry.entries = (front ++ [written]) ++ behind := by simp [hentries]
      exact notDeclared_of_roundTrips hflat hback hnames hentries' (by simp) ho
        (hne other (List.mem_append_right front ho))
  · intro htakes
    apply roundTrips_of_untaken hflat
    rw [hentries]
    exact (untaken_write_iff front behind written).mpr ⟨h, htakes⟩

end Registry
end LcpGateway.Config
