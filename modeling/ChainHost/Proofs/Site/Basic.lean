/-
  What binding and dropping change on a site.

  A socket is bound where nothing lies or a stale one does, so binding makes and removes
  no directory, and every path leads where it led before.
-/
import ChainHost.Proofs.Except
import ChainHost.Site.Basic

set_option autoImplicit false

namespace ChainHost.Site

/-! ## Views -/

theorem find?_of_above {site : Site} {loc : Location} (h : loc.isPrefixOf site.here = true) :
    site.find? loc = some .directory :=
  if_pos h

/-- Outside the directories around the working directory an entry is put where it is
found. -/
theorem find?_put {site : Site} {loc : Location} (h : site.find? loc ≠ some .directory)
    (entry : Entry) (other : Location) :
    (site.put loc entry).find? other = if loc = other then some entry else site.find? other := by
  unfold find?
  by_cases habove : other.isPrefixOf site.here = true
  · have hne : loc ≠ other := fun heq => h (heq ▸ find?_of_above habove)
    rw [if_pos (show other.isPrefixOf (site.put loc entry).here = true from habove),
      if_pos habove, if_neg hne]
  · rw [if_neg (show ¬other.isPrefixOf (site.put loc entry).here = true from habove),
      if_neg habove]
    by_cases heq : loc = other
    · rw [if_pos heq, heq]
      exact Table.find?_insert_self ..
    · rw [if_neg heq]
      exact Table.find?_insert_of_ne _ _ (Ne.symm heq)

/-! ## Paths -/

/-- Two sites with the same directories. -/
structure SameDirectories (site other : Site) : Prop where
  here : other.here = site.here
  found : ∀ loc, other.find? loc = some .directory ↔ site.find? loc = some .directory

theorem SameDirectories.symm {site other : Site} (h : SameDirectories site other) :
    SameDirectories other site :=
  ⟨h.here.symm, fun loc => (h.found loc).symm⟩

theorem SameDirectories.put {site : Site} {loc : Location} {entry : Entry}
    (h : site.find? loc ≠ some .directory) (hentry : entry ≠ .directory) :
    SameDirectories site (site.put loc entry) := by
  refine ⟨rfl, fun other => ?_⟩
  rw [find?_put h]
  split
  · next heq =>
      rw [← heq]
      exact iff_of_false (fun hsome => hentry (Option.some.inj hsome)) h
  · exact Iff.rfl

theorem follow_of_same {site other : Site} (h : SameDirectories site other)
    {loc next : Location} {segment : String} (hfollow : site.follow loc segment = .ok next) :
    other.follow loc segment = .ok next := by
  unfold follow at hfollow ⊢
  split at hfollow
  · next hdirectory =>
      rw [(h.found loc).mpr hdirectory]
      exact hfollow
  · cases hfollow
  · cases hfollow

theorem foldlM_follow_of_same {site other : Site} (h : SameDirectories site other)
    {segments : List String} {loc last : Location}
    (hfold : segments.foldlM site.follow loc = .ok last) :
    segments.foldlM other.follow loc = .ok last := by
  induction segments generalizing loc with
  | nil => exact hfold
  | cons segment rest ih =>
      rw [List.foldlM_cons] at hfold ⊢
      obtain ⟨next, hfollow, hrest⟩ := exists_of_bind_eq_ok hfold
      rw [follow_of_same h hfollow]
      exact ih hrest

/-- Paths lead to the same locations where the directories are the same. -/
theorem locate_iff_of_same {site other : Site} (h : SameDirectories site other) {path : String}
    {loc : Location} : other.locate path = .ok loc ↔ site.locate path = .ok loc := by
  have hone {site other : Site} (h : SameDirectories site other)
      (hlocate : site.locate path = .ok loc) : other.locate path = .ok loc := by
    unfold locate at hlocate ⊢
    rw [h.here]
    split at hlocate
    · next husable =>
        rw [if_pos husable]
        split at hlocate
        · exact foldlM_follow_of_same h hlocate
        · exact foldlM_follow_of_same h hlocate
    · cases hlocate
  exact ⟨hone h.symm, hone h⟩

theorem toOption_locate_of_same {site other : Site} (h : SameDirectories site other)
    (path : String) : (other.locate path).toOption = (site.locate path).toOption := by
  refine Option.ext fun loc => ?_
  rw [toOption_eq_some_iff, toOption_eq_some_iff]
  exact locate_iff_of_same h

/-! ## Sockets -/

/-- A location where a socket may be bound. -/
def Free (site : Site) (loc : Location) : Prop :=
  site.find? loc = none ∨ site.find? loc = some .stale

theorem Free.no_directory {site : Site} {loc : Location} (h : site.Free loc) :
    site.find? loc ≠ some .directory := by
  rcases h with h | h <;> simp [h]

/-- A socket is bound at a free location that its path leads to, or nowhere. -/
theorem bind_eq_ok {site after : Site} {path : String} {socket : Option Location}
    (h : site.bind path = .ok (socket, after)) : socket = (site.locate path).toOption
      ∧ match socket with
        | none => after = site
        | some loc => site.Free loc ∧ after = site.put loc .live := by
  unfold bind at h
  split at h
  · next hlocate =>
      split at h
      · cases h
        exact ⟨by rw [hlocate]; rfl, rfl⟩
      · cases h
  · next loc hlocate =>
      split at h
      · cases h
      · cases h
      · cases h
      · next hstale =>
          split at h
          · cases h
            exact ⟨by rw [hlocate]; rfl, .inr hstale, rfl⟩
          · cases h
      · next hnone =>
          split at h
          · cases h
            exact ⟨by rw [hlocate]; rfl, .inl hnone, rfl⟩
          · cases h

/-- A dropped socket is stale. -/
theorem find?_drop {site : Site} {socket : Option Location}
    (h : ∀ loc, socket = some loc → site.find? loc ≠ some .directory) (other : Location) :
    (site.drop socket).find? other
      = if socket = some other then some .stale else site.find? other := by
  cases socket with
  | none => rfl
  | some loc =>
      rw [drop, find?_put (h loc rfl)]
      simp only [Option.some.injEq]

/-! ## Addresses -/

/-- An address that is listened on is one more. -/
theorem listen_eq_ok {site after : Site} {host : String} {port : UInt16} {address : Address}
    (h : site.listen host port = .ok (address, after)) : after = { site with
      network := { site.network with listening := address :: site.network.listening } } := by
  unfold listen at h
  split at h
  · cases h
  · next found network hbind =>
      cases h
      obtain ⟨asked, -, hgrant⟩ := Option.bind_eq_some_iff.mp hbind
      obtain ⟨had, -, heq⟩ := Option.map_eq_some_iff.mp hgrant
      cases heq
      rfl

end ChainHost.Site
