/-
  Which paths a URL keeps.

  Cleaning, resolving dot segments and dropping a query each make a text shorter if they
  change it at all, as resolving escapes does.  So a path that comes out of a URL as long
  as it went in was left alone by each of them; `PlainPath` says what that takes.
-/
import ChainHost.Endpoint.Url
import ChainHost.Proofs.Except
import ChainHost.Proofs.Text.Percent
import ChainHost.Proofs.Text.Split

set_option autoImplicit false

namespace ChainHost.Url

/-! ## Dot segments -/

/-- A segment that stands for its own directory or for the one above. -/
def IsDots (segment : Bytes) : Prop := isDot segment = true ∨ isDoubleDot segment = true

theorem length_ascend_le (done : List Bytes) :
    (resolve.directories (ascend done)).length ≤ (resolve.directories done).length := by
  unfold ascend
  split
  · next last rest =>
      split
      · exact Nat.le_refl _
      · simp [resolve.directories]
  · exact Nat.le_refl _

theorem directories_cons (segment : Bytes) (done : List Bytes) :
    resolve.directories (segment :: done) = resolve.directories done ++ (segment ++ [47]) := by
  simp [resolve.directories]

theorem IsDots.pos {segment : Bytes} (h : IsDots segment) : 0 < segment.length := by
  cases segment with
  | nil => rcases h with h | h <;> cases h
  | cons b rest => exact Nat.succ_pos _

/-- Segments without dots make up the path as it is. -/
theorem resolve_eq {done segments : List Bytes} (hne : segments ≠ [])
    (h : ∀ segment ∈ segments, ¬IsDots segment) :
    resolve done segments = resolve.directories done ++ List.intercalate [47] segments := by
  fun_induction resolve done segments with
  | case1 done => exact absurd rfl hne
  | case2 done last hdouble => exact absurd (.inr hdouble) (h last List.mem_cons_self)
  | case3 done last hdouble hdot => exact absurd (.inl hdot) (h last List.mem_cons_self)
  | case4 done last hdouble hdot => rw [List.intercalate_singleton]
  | case5 done segment rest hmore hdouble ih =>
      exact absurd (.inr hdouble) (h segment List.mem_cons_self)
  | case6 done segment rest hmore hdouble hdot ih =>
      exact absurd (.inl hdot) (h segment List.mem_cons_self)
  | case7 done segment rest hmore hdouble hdot ih =>
      have hrest : rest ≠ [] := fun hnil => hmore hnil
      obtain ⟨next, more, rfl⟩ := List.exists_cons_of_ne_nil hrest
      rw [ih hrest fun s hs => h s (List.mem_cons_of_mem _ hs), directories_cons,
        List.intercalate_cons_cons]
      simp only [List.append_assoc]

theorem length_intercalate_cons (segment : Bytes) {rest : List Bytes} (h : rest ≠ []) :
    (List.intercalate [47] (segment :: rest)).length
      = segment.length + 1 + (List.intercalate [(47 : UInt8)] rest).length := by
  obtain ⟨next, more, rfl⟩ := List.exists_cons_of_ne_nil h
  rw [List.intercalate_cons_cons, List.length_append, List.length_append, List.length_singleton]

/-- Segments never make up more than the path, and with dots less. -/
theorem length_resolve (done : List Bytes) {segments : List Bytes} (hne : segments ≠ []) :
    (resolve done segments).length
        ≤ (resolve.directories done).length + (List.intercalate [47] segments).length
      ∧ ((∃ segment ∈ segments, IsDots segment) → (resolve done segments).length
        < (resolve.directories done).length + (List.intercalate [47] segments).length) := by
  fun_induction resolve done segments with
  | case1 done => exact absurd rfl hne
  | case2 done last hdouble =>
      have hpos := IsDots.pos (.inr hdouble)
      have hup := length_ascend_le done
      rw [List.intercalate_singleton]
      exact ⟨by omega, fun _ => by omega⟩
  | case3 done last hdouble hdot =>
      have hpos := IsDots.pos (.inl hdot)
      rw [List.intercalate_singleton]
      exact ⟨by omega, fun _ => by omega⟩
  | case4 done last hdouble hdot =>
      rw [List.intercalate_singleton, List.length_append]
      refine ⟨Nat.le_refl _, ?_⟩
      rintro ⟨segment, hmem, hsegment⟩
      rw [List.mem_singleton.mp hmem] at hsegment
      exact absurd hsegment (not_or.mpr ⟨hdot, hdouble⟩)
  | case5 done segment rest hmore hdouble ih =>
      have hrest : rest ≠ [] := fun hnil => hmore hnil
      have hpos := IsDots.pos (.inr hdouble)
      have hup := length_ascend_le done
      have hle := (ih hrest).1
      rw [length_intercalate_cons segment hrest]
      exact ⟨by omega, fun _ => by omega⟩
  | case6 done segment rest hmore hdouble hdot ih =>
      have hrest : rest ≠ [] := fun hnil => hmore hnil
      have hpos := IsDots.pos (.inl hdot)
      have hle := (ih hrest).1
      rw [length_intercalate_cons segment hrest]
      exact ⟨by omega, fun _ => by omega⟩
  | case7 done segment rest hmore hdouble hdot ih =>
      have hrest : rest ≠ [] := fun hnil => hmore hnil
      obtain ⟨hle, hlt⟩ := ih hrest
      rw [directories_cons, List.length_append, List.length_append, List.length_singleton]
        at hle hlt
      rw [length_intercalate_cons segment hrest]
      refine ⟨by omega, ?_⟩
      rintro ⟨dots, hmem, hdots⟩
      rcases List.mem_cons.mp hmem with rfl | hmem
      · exact absurd hdots (not_or.mpr ⟨hdot, hdouble⟩)
      · have := hlt ⟨dots, hmem, hdots⟩
        omega

/-! ## Paths -/

/-- What stands behind the slash that a path starts with, if it makes up the path as it
is. -/
structure Straight (rest : Bytes) : Prop where
  whole : ∀ b ∈ rest, b ≠ 63 ∧ b ≠ 35
  undotted : ∀ segment ∈ Text.splitAt 47 rest, ¬IsDots segment

theorem beforeQuery_sublist (text : Bytes) : (beforeQuery text).Sublist text :=
  List.takeWhile_sublist _

theorem beforeQuery_eq_self_iff {text : Bytes} :
    beforeQuery text = text ↔ ∀ b ∈ text, b ≠ 63 ∧ b ≠ 35 := by
  simp only [beforeQuery, List.takeWhile_eq_self_iff, decide_eq_true_eq]

theorem beforeQuery_beforeQuery (text : Bytes) :
    beforeQuery (beforeQuery text) = beforeQuery text := by
  rw [beforeQuery_eq_self_iff]
  intro b hb
  have hkept := List.mem_takeWhile_imp (p := fun b => decide (b ≠ 63 ∧ b ≠ 35)) hb
  exact of_decide_eq_true hkept

theorem pathAfterHost_cons (rest : Bytes) : pathAfterHost (47 :: rest) = rootedPath rest := by
  have hfirst : beforeQuery (47 :: rest) = 47 :: beforeQuery rest := by
    rw [beforeQuery, List.takeWhile_cons_of_pos (by decide)]
    rfl
  rw [pathAfterHost, hfirst]
  change rootedPath (beforeQuery rest) = rootedPath rest
  unfold rootedPath
  rw [beforeQuery_beforeQuery]

theorem rootedPath_of_straight {rest : Bytes} (h : Straight rest) : rootedPath rest = 47 :: rest := by
  rw [rootedPath, beforeQuery_eq_self_iff.mpr h.whole,
    resolve_eq (Text.splitAt_ne_nil 47 rest) h.undotted, Text.intercalate_splitAt]
  rfl

theorem length_rootedPath_le (rest : Bytes) : (rootedPath rest).length ≤ rest.length + 1 := by
  have hle := (length_resolve [] (Text.splitAt_ne_nil 47 (beforeQuery rest))).1
  rw [Text.intercalate_splitAt] at hle
  have hquery := (beforeQuery_sublist rest).length_le
  have hroot : (resolve.directories []).length = 1 := rfl
  rw [rootedPath]
  omega

/-- A path that is as long as its text is the text. -/
theorem straight_of_length {rest : Bytes} (h : (rootedPath rest).length = rest.length + 1) :
    Straight rest := by
  have hlength := length_resolve [] (Text.splitAt_ne_nil 47 (beforeQuery rest))
  rw [Text.intercalate_splitAt] at hlength
  have hquery := (beforeQuery_sublist rest).length_le
  have hroot : (resolve.directories []).length = 1 := rfl
  rw [rootedPath] at h
  have hself : beforeQuery rest = rest :=
    (beforeQuery_sublist rest).eq_of_length (by omega)
  rw [hself] at hlength h
  refine ⟨beforeQuery_eq_self_iff.mp hself, fun segment hmem hdots => ?_⟩
  have hlt := hlength.2 ⟨segment, hmem, hdots⟩
  omega

theorem exists_resolve_eq_cons (done segments : List Bytes) :
    ∃ rest, resolve done segments = 47 :: rest := by
  fun_induction resolve done segments with
  | case1 done => exact ⟨_, rfl⟩
  | case2 done last hdouble => exact ⟨_, rfl⟩
  | case3 done last hdouble hdot => exact ⟨_, rfl⟩
  | case4 done last hdouble hdot => exact ⟨_, rfl⟩
  | case5 done segment rest hmore hdouble ih => exact ih
  | case6 done segment rest hmore hdouble hdot ih => exact ih
  | case7 done segment rest hmore hdouble hdot ih => exact ih

/-- A path behind an authority is empty or starts with a slash. -/
theorem rooted_pathAfterHost (text : Bytes) :
    pathAfterHost text = [] ∨ ∃ rest, pathAfterHost text = 47 :: rest := by
  unfold pathAfterHost
  split
  · exact .inl rfl
  · exact .inr (exists_resolve_eq_cons ..)
  · exact .inr (exists_resolve_eq_cons ..)

/-! ## Cleaning -/

/-- What cleaning leaves of the end of a text. -/
def tidy (body : Bytes) : Bytes :=
  (body.reverse.dropWhile (· ≤ 32)).reverse.filter fun b => b ≠ 9 ∧ b ≠ 10 ∧ b ≠ 13

theorem dropWhile_blank {text : Bytes} (h : ∀ b ∈ text.head?, 32 < b.toNat) :
    text.dropWhile (· ≤ 32) = text := by
  refine List.dropWhile_eq_self_iff.mpr fun hpos hblank => ?_
  have hfirst := h _ (List.head?_eq_getElem? ▸ List.getElem?_eq_getElem hpos)
  exact absurd (UInt8.le_iff_toNat_le.mp (of_decide_eq_true hblank)) (Nat.not_le.mpr hfirst)

/-- The start of a text that holds no blanks stays. -/
theorem tidy_append {front : Bytes} (hfront : ∀ b ∈ front, 32 < b.toNat) (body : Bytes) :
    tidy (front ++ body) = front ++ tidy body := by
  have hlast : ∀ b ∈ front.reverse.head?, 32 < b.toNat := fun b hb =>
    hfront b (List.mem_reverse.mp (List.mem_of_mem_head? hb))
  have hend : ((front ++ body).reverse.dropWhile (· ≤ 32)).reverse
      = front ++ (body.reverse.dropWhile (· ≤ 32)).reverse := by
    rw [List.reverse_append, List.dropWhile_append, dropWhile_blank hlast]
    split
    · next hempty => simp [List.isEmpty_iff.mp hempty]
    · simp
  have hkept : front.filter (fun b => b ≠ 9 ∧ b ≠ 10 ∧ b ≠ 13) = front := by
    refine List.filter_eq_self.mpr fun b hb => decide_eq_true ?_
    have hlow := hfront b hb
    refine ⟨?_, ?_, ?_⟩ <;> rintro rfl <;> exact absurd hlow (by decide)
  rw [tidy, hend, List.filter_append, hkept, tidy]

theorem clean_append {front : Bytes} (hne : front ≠ []) (hfront : ∀ b ∈ front, 32 < b.toNat)
    (body : Bytes) : clean (front ++ body) = front ++ tidy body := by
  have hhead : ∀ b ∈ (front ++ body).head?, 32 < b.toNat := by
    intro b hb
    obtain ⟨first, rest, rfl⟩ := List.exists_cons_of_ne_nil hne
    exact hfront b (Option.some.inj hb ▸ List.mem_cons_self)
  rw [clean, dropWhile_blank hhead]
  exact tidy_append hfront body

theorem blankless_of_all {bytes : Bytes} (h : (bytes.all fun b => decide (32 < b.toNat)) = true) :
    ∀ b ∈ bytes, 32 < b.toNat :=
  fun b hb => of_decide_eq_true (List.all_eq_true.mp h b hb)

theorem tidy_slash (rest : Bytes) : tidy (47 :: rest) = 47 :: tidy rest :=
  tidy_append (@blankless_of_all [47] rfl) rest

theorem tidy_of_blankless {body : Bytes} (h : ∀ b ∈ body, 32 < b.toNat) : tidy body = body := by
  have hbody := tidy_append h []
  rwa [List.append_nil, show tidy [] = [] from rfl, List.append_nil] at hbody

theorem tidy_sublist (body : Bytes) : (tidy body).Sublist body := by
  have hend := (List.dropWhile_sublist (l := body.reverse) (· ≤ 32)).reverse
  rw [List.reverse_reverse] at hend
  exact List.filter_sublist.trans hend

/-- A text that is clean already. -/
structure Tidy (body : Bytes) : Prop where
  last : ∀ b ∈ body.getLast?, 32 < b.toNat
  unbroken : ∀ b ∈ body, b ≠ 9 ∧ b ≠ 10 ∧ b ≠ 13

theorem tidy_eq_self_iff {body : Bytes} : tidy body = body ↔ Tidy body := by
  constructor
  · intro h
    have hend := (List.dropWhile_sublist (l := body.reverse) (· ≤ 32)).reverse
    rw [List.reverse_reverse] at hend
    have hle : body.length ≤ (body.reverse.dropWhile (· ≤ 32)).reverse.length := by
      rw [← congrArg List.length h]
      exact List.length_filter_le ..
    have hself := hend.eq_of_length_le hle
    refine ⟨fun b hb => ?_, fun b hb => ?_⟩
    · have hhead := List.head?_dropWhile_not (fun b : UInt8 => decide (b ≤ 32)) body.reverse
      rw [List.reverse_eq_iff.mp hself, List.head?_reverse, hb] at hhead
      have hblank : ¬b ≤ 32 := of_decide_eq_false hhead
      rw [UInt8.le_iff_toNat_le] at hblank
      exact Nat.not_le.mp hblank
    · rw [← h] at hb
      exact of_decide_eq_true (List.mem_filter.mp hb).2
  · intro h
    have hlast : ∀ b ∈ body.reverse.head?, 32 < b.toNat := by
      rw [List.head?_reverse]
      exact h.last
    rw [tidy, dropWhile_blank hlast, List.reverse_reverse]
    exact List.filter_eq_self.mpr fun b hb => decide_eq_true (h.unbroken b hb)

/-! ## Paths behind an authority -/

/-- A path that is read as it is. -/
structure PlainPath (path : Bytes) : Prop where
  /-- It starts with a slash. -/
  rooted : path.head? = some 47
  /-- Nothing of it is cleaned away. -/
  tidy : Tidy path
  /-- No query and no fragment ends it. -/
  whole : ∀ b ∈ path, b ≠ 63 ∧ b ≠ 35
  /-- No segment leads to its own directory or the one above. -/
  undotted : ∀ segment ∈ Text.splitAt 47 path, ¬IsDots segment
  /-- No three bytes of it stand for another one. -/
  unescaped : ¬Percent.Escaped path

theorem straight_iff {rest : Bytes} : Straight rest ↔ (∀ b ∈ 47 :: rest, b ≠ 63 ∧ b ≠ 35)
    ∧ ∀ segment ∈ Text.splitAt 47 (47 :: rest), ¬IsDots segment := by
  have hsplit : Text.splitAt 47 (47 :: rest) = [] :: Text.splitAt 47 rest := by
    rw [Text.splitAt, if_pos rfl]
  rw [hsplit, List.forall_mem_cons, List.forall_mem_cons]
  constructor
  · exact fun h => ⟨⟨by decide, h.whole⟩, fun hdots => absurd hdots.pos (by decide), h.undotted⟩
  · exact fun h => ⟨h.1.2, h.2.2⟩

/-- The path behind the empty authority of a text is the text itself in no other case:
whatever else is done to it makes it shorter. -/
theorem decode_pathAfterHost_iff (rest : Bytes) :
    Percent.decode (pathAfterHost (tidy (47 :: rest))) = 47 :: rest ↔ PlainPath (47 :: rest) := by
  have htidy := tidy_slash rest
  rw [htidy, pathAfterHost_cons]
  constructor
  · intro h
    have hdecode := Percent.length_decode_le (rootedPath (tidy rest))
    have hpath := length_rootedPath_le (tidy rest)
    have hclean := (tidy_sublist rest).length_le
    rw [h, List.length_cons] at hdecode
    have hself : tidy rest = rest := (tidy_sublist rest).eq_of_length (by omega)
    rw [hself] at h hdecode hpath htidy
    have hstraight : Straight rest := straight_of_length (by omega)
    rw [rootedPath_of_straight hstraight] at h
    obtain ⟨hwhole, hundotted⟩ := straight_iff.mp hstraight
    exact ⟨rfl, tidy_eq_self_iff.mp htidy, hwhole, hundotted, Percent.decode_eq_self_iff.mp h⟩
  · intro h
    rw [tidy_eq_self_iff.mpr h.tidy] at htidy
    rw [← (List.cons.inj htidy).2, rootedPath_of_straight (straight_iff.mpr ⟨h.whole, h.undotted⟩)]
    exact Percent.decode_eq_self_iff.mpr h.unescaped

/-! ## Reading -/

/-- A scheme that is not special, written as it is read. -/
structure PlainScheme (scheme : Bytes) : Prop where
  blankless : ∀ b ∈ scheme, 32 < b.toNat
  read : ∀ rest, scheme? (scheme ++ 58 :: rest) = some (scheme, rest)
  not_file : scheme ≠ Bytes.ofText "file"
  not_web : scheme ∉ webSchemes

theorem plainScheme_unix : PlainScheme (Bytes.ofText "unix") :=
  ⟨blankless_of_all rfl, fun _ => rfl, by decide, by decide⟩

theorem plainScheme_tcp : PlainScheme (Bytes.ofText "tcp") :=
  ⟨blankless_of_all rfl, fun _ => rfl, by decide, by decide⟩

/-- Behind the two slashes of a plain scheme stands an authority. -/
theorem PlainScheme.read_slashes {scheme : Bytes} (h : PlainScheme scheme) (body : Bytes) :
    Url.read (scheme ++ 58 :: 47 :: 47 :: body) = readAuthority false scheme (tidy body) := by
  have hfront : ∀ b ∈ scheme ++ [58, 47, 47], 32 < b.toNat := by
    intro b hb
    rcases List.mem_append.mp hb with hb | hb
    · exact h.blankless b hb
    · exact @blankless_of_all [58, 47, 47] rfl b hb
  have happend (rest : Bytes) :
      scheme ++ 58 :: 47 :: 47 :: rest = (scheme ++ [58, 47, 47]) ++ rest := by
    rw [List.append_assoc]
    rfl
  have hclean : clean (scheme ++ 58 :: 47 :: 47 :: body) = scheme ++ 58 :: 47 :: 47 :: tidy body := by
    rw [happend, clean_append (by simp) hfront, ← happend]
  rw [Url.read, hclean, h.read]
  dsimp only
  rw [if_neg h.not_file, if_neg h.not_web]
  rfl

theorem readAuthority_rooted (scheme rest : Bytes) :
    readAuthority false scheme (47 :: rest)
      = .ok { scheme, path := pathAfterHost (47 :: rest) } := by
  rfl

/-- What an authority and what is behind it come to. -/
theorem exists_of_readAuthority {special : Bool} {scheme text : Bytes} {url : Url}
    (h : readAuthority special scheme text = .ok url) :
    ∃ user text' host port rest, dropUser special text = .ok (user, text')
      ∧ readHost special text' = .ok (host, port, rest)
      ∧ url = { scheme, host, port, path := pathAfterHost rest } := by
  unfold readAuthority at h
  obtain ⟨⟨user, text'⟩, huser, h⟩ := exists_of_bind_eq_ok h
  obtain ⟨⟨host, port, rest⟩, hhost, h⟩ := exists_of_bind_eq_ok h
  dsimp only at h
  split at h
  · cases h
  · cases h
    exact ⟨user, text', host, port, rest, huser, hhost, rfl⟩

theorem rooted_of_readAuthority {special : Bool} {scheme text : Bytes} {url : Url}
    (h : readAuthority special scheme text = .ok url) :
    url.path = [] ∨ ∃ rest, url.path = 47 :: rest := by
  obtain ⟨_, _, _, _, rest, _, _, rfl⟩ := exists_of_readAuthority h
  exact rooted_pathAfterHost rest

/-- The host of an authority is not empty. -/
theorem exists_of_readHost {text rest host : Bytes} {port : Option Nat}
    (h : readHost false text = .ok (some host, port, rest)) :
    host ≠ [] ∧ plainHost (hostText false false text) = .ok host := by
  unfold readHost at h
  obtain ⟨found, hhost, h⟩ := exists_of_bind_eq_ok h
  dsimp only at h
  split at h
  · split at h
    · cases h
    · next hne =>
        obtain ⟨⟨port, rest⟩, -, h⟩ := exists_of_bind_eq_ok h
        cases h
        exact ⟨hne, hhost⟩
  · split at h
    · cases h
    · next hne =>
        cases h
        exact ⟨hne, hhost⟩

theorem scheme_of_readFile {scheme text : Bytes} {url : Url}
    (h : readFile scheme text = .ok url) : url.scheme = scheme := by
  unfold readFile at h
  split at h
  · next rest =>
      split at h
      · obtain ⟨host, -, rfl⟩ := exists_of_map_eq_ok h
        rfl
      · cases h
        rfl
  · cases h
    rfl

/-- The host of a URL with a plain scheme stands behind two slashes. -/
theorem PlainScheme.readAuthority_of_read {text : Bytes} {url : Url}
    (hscheme : PlainScheme url.scheme) (h : Url.read text = .ok url) (hhost : url.host ≠ none) :
    ∃ body, readAuthority false url.scheme body = .ok url := by
  unfold Url.read at h
  split at h
  · cases h
  · next scheme rest hread =>
      split at h
      · next hfile =>
          exact absurd ((scheme_of_readFile h).trans hfile) hscheme.not_file
      · split at h
        · next hweb =>
            obtain ⟨_, _, _, _, _, _, _, rfl⟩ := exists_of_readAuthority h
            exact absurd hweb hscheme.not_web
        · split at h
          · obtain ⟨_, _, _, _, _, _, _, rfl⟩ := exists_of_readAuthority h
            exact ⟨_, h⟩
          · cases h
            exact absurd rfl hhost
          · cases h
            exact absurd rfl hhost

end ChainHost.Url
