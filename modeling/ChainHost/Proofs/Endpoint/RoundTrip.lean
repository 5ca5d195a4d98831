/-
  Which endpoints are written as they are read.

  Reading takes the brackets off an address of groups and resolves the escapes of a path,
  and the display puts neither back.  So exactly the endpoints without a colon in the host
  and with a path that a URL keeps come back from their display.
-/
import ChainHost.Endpoint.Basic
import ChainHost.Proofs.Endpoint.Host

set_option autoImplicit false

namespace ChainHost.Endpoint

/-! ## Texts -/

theorem ofText_textOf {bytes : Bytes} (h : Utf8.Plain bytes) :
    Bytes.ofText (textOf bytes) = bytes := by
  rw [Bytes.ofText, textOf, String.toList_ofList]
  exact Utf8.flatMap_decodeLossy_of_plain h

theorem ofText_append (text more : String) :
    Bytes.ofText (text ++ more) = Bytes.ofText text ++ Bytes.ofText more := by
  rw [Bytes.ofText, String.toList_append, List.flatMap_append]
  rfl

theorem eq_empty_of_ofText {text : String} (h : Bytes.ofText text = []) : text = "" := by
  have htext := Utf8.decode?_ofText text
  rw [h] at htext
  exact (Option.some.inj htext).symm

theorem ofText_display_unix (path : String) : Bytes.ofText (unix path).display
    = Bytes.ofText "unix" ++ 58 :: 47 :: 47 :: Bytes.ofText path :=
  ofText_append "unix://" path

theorem ofText_display_tcp (host : String) (port : UInt16) :
    Bytes.ofText (tcp host port).display = Bytes.ofText "tcp"
      ++ 58 :: 47 :: 47 :: (Bytes.ofText host ++ 58 :: Decimal.digits port.toNat) := by
  rw [display, ofText_append, ofText_append, ofText_append, Decimal.ofText_toString,
    List.append_assoc, List.append_assoc]
  rfl

/-! ## URLs -/

theorem exists_of_read {text : String} {e : Endpoint} (h : read text = .ok e) :
    ∃ url, Url.read (Bytes.ofText text) = .ok url ∧ ofUrl text url = .ok e := by
  unfold read at h
  split at h
  · cases h
  · next url hurl => exact ⟨url, hurl, h⟩

/-- The path that a URL is read as. -/
theorem path_of_ofUrl {text path : String} {url : Url} (h : ofUrl text url = .ok (unix path)) :
    Percent.decode url.path = Bytes.ofText path ∧ path ≠ "" ∧ path ≠ "/" := by
  unfold ofUrl at h
  split at h
  · split at h
    · cases h
    · next found hdecode =>
        split at h
        · cases h
        · next hnamed =>
            cases h
            exact ⟨Utf8.eq_ofText_of_decode? hdecode, not_or.mp hnamed⟩
  · split at h
    · split at h <;> cases h
    · cases h

theorem ofUrl_of_path (text : String) {path : String} {url : Url}
    (hscheme : url.scheme = Bytes.ofText "unix") (hpath : Percent.decode url.path = Bytes.ofText path)
    (hempty : path ≠ "") (hroot : path ≠ "/") : ofUrl text url = .ok (unix path) := by
  rw [ofUrl, if_pos hscheme, hpath, Utf8.decode?_ofText]
  exact if_neg (not_or.mpr ⟨hempty, hroot⟩)

/-- The host that a URL is read as. -/
theorem host_of_ofUrl {text host : String} {port : UInt16} {url : Url}
    (h : ofUrl text url = .ok (tcp host port)) : url.scheme = Bytes.ofText "tcp"
      ∧ ∃ found, url.host = some found ∧ host = textOf (bareHost found) := by
  unfold ofUrl at h
  split at h
  · split at h
    · cases h
    · split at h <;> cases h
  · split at h
    · next hscheme =>
        split at h
        · cases h
        · cases h
        · next found n hhost hport =>
            cases h
            exact ⟨hscheme, found, hhost, rfl⟩
    · cases h

/-! ## Paths -/

/-- The display of a path is read as that path if a URL keeps all of it, and in no other
case. -/
theorem read_display_unix_iff {path : String} (hempty : path ≠ "") (hroot : path ≠ "/") :
    read (unix path).display = .ok (unix path) ↔ Url.PlainPath (Bytes.ofText path) := by
  -- Behind an empty authority the path is read from its slash.
  have hread {rest : Bytes} (hpath : Bytes.ofText path = 47 :: rest) :
      Url.readAuthority false (Bytes.ofText "unix") (Url.tidy (Bytes.ofText path))
        = .ok { scheme := Bytes.ofText "unix", path := Url.pathAfterHost (Url.tidy (47 :: rest)) } := by
    rw [hpath, Url.tidy_slash]
    exact Url.readAuthority_rooted ..
  rw [read, ofText_display_unix, Url.plainScheme_unix.read_slashes]
  constructor
  · intro h
    cases hurl : Url.readAuthority false (Bytes.ofText "unix") (Url.tidy (Bytes.ofText path)) with
    | error fault =>
        rw [hurl] at h
        cases h
    | ok url =>
        rw [hurl] at h
        have hdecode := (path_of_ofUrl h).1
        rcases Url.rooted_of_readAuthority hurl with hnone | ⟨rest, hrest⟩
        · rw [hnone] at hdecode
          exact absurd (eq_empty_of_ofText hdecode.symm) hempty
        · have hpath : Bytes.ofText path = 47 :: Percent.decode rest := by
            rw [← hdecode, hrest, Percent.decode_cons (by decide)]
          rw [hread hpath] at hurl
          cases hurl
          rw [hpath] at hdecode ⊢
          exact (Url.decode_pathAfterHost_iff _).mp hdecode
  · intro hplain
    obtain ⟨rest, hpath⟩ : ∃ rest, Bytes.ofText path = 47 :: rest :=
      List.head?_eq_some_iff.mp hplain.rooted
    rw [hread hpath]
    refine ofUrl_of_path _ rfl ?_ hempty hroot
    rw [hpath] at hplain ⊢
    exact (Url.decode_pathAfterHost_iff rest).mpr hplain

/-! ## Hosts -/

theorem dropWhile_of_notMem {b : UInt8} {bytes : Bytes} (h : b ∉ bytes) :
    bytes.dropWhile (· == b) = bytes :=
  List.dropWhile_eq_self_iff.mpr fun hpos hfirst => h (eq_of_beq hfirst ▸ List.getElem_mem hpos)

theorem bareHost_eq {host : Bytes} (hopen : 91 ∉ host) (hclose : 93 ∉ host) :
    bareHost host = host := by
  rw [bareHost, dropWhile_of_notMem hopen, dropWhile_of_notMem (mt List.mem_reverse.mp hclose),
    List.reverse_reverse]

theorem bareHost_bracketed {host : Bytes} (hopen : 91 ∉ host) (hclose : 93 ∉ host) :
    bareHost (91 :: host ++ [93]) = host := by
  have hinner : 91 ∉ host ++ [93] := by simpa using hopen
  rw [bareHost, List.cons_append, List.dropWhile_cons_of_pos (by rfl), dropWhile_of_notMem hinner,
    List.reverse_append, List.reverse_singleton, List.singleton_append,
    List.dropWhile_cons_of_pos (by rfl), dropWhile_of_notMem (mt List.mem_reverse.mp hclose),
    List.reverse_reverse]

theorem bareHost_of_plain {host : Bytes} (h : Url.PlainHost host) : bareHost host = host :=
  bareHost_eq (fun hopen => absurd (h.allowed 91 hopen) (by decide))
    fun hclose => absurd (h.allowed 93 hclose) (by decide)

/-- The host of what is read is plain, or an address without its brackets. -/
theorem host_of_read {text host : String} {port : UInt16} (h : read text = .ok (tcp host port)) :
    (∃ bytes, host = textOf bytes ∧ Url.PlainHost bytes)
      ∨ ∃ groups : List Nat, host = textOf (Ipv6.write groups) ∧ groups.length = 8 := by
  obtain ⟨url, hurl, hof⟩ := exists_of_read h
  obtain ⟨hscheme, found, hhost, rfl⟩ := host_of_ofUrl hof
  have hplain : Url.PlainScheme url.scheme := hscheme ▸ Url.plainScheme_tcp
  obtain ⟨body, hbody⟩ := hplain.readAuthority_of_read hurl (by simp [hhost])
  obtain ⟨_, _, _, _, _, _, hread, heq⟩ := Url.exists_of_readAuthority hbody
  rw [heq] at hhost
  cases hhost
  obtain ⟨hne, hread⟩ := Url.exists_of_readHost hread
  rcases Url.plain_or_bracketed hread hne with hfound | ⟨groups, hgroups, rfl⟩
  · exact .inl ⟨found, by rw [bareHost_of_plain hfound], hfound⟩
  · obtain ⟨hopen, hclose⟩ := Ipv6.bracket_notMem_write groups
    exact .inr ⟨groups, by rw [bareHost_bracketed hopen hclose], hgroups⟩

/-- The display of a host of printed characters is read from its authority. -/
theorem readUrl_display {host : Bytes} (h : ∀ b ∈ host, 32 < b.toNat ∧ b.toNat < 127)
    (port : UInt16) : Bytes.ofText (textOf host) = host
      ∧ Url.read (Bytes.ofText (tcp (textOf host) port).display)
        = Url.readAuthority false (Bytes.ofText "tcp") (host ++ 58 :: Decimal.digits port.toNat) := by
  have htext : Bytes.ofText (textOf host) = host :=
    ofText_textOf fun b hb => (h b hb).2.trans (by decide)
  have hblankless : ∀ b ∈ host ++ 58 :: Decimal.digits port.toNat, 32 < b.toNat := by
    intro b hb
    rcases List.mem_append.mp hb with hb | hb
    · exact (h b hb).1
    · rcases List.mem_cons.mp hb with rfl | hb
      · decide
      · have hdigit := Decimal.isDigit_of_mem_digits _ b hb
        simp only [Decimal.isDigit, Bool.and_eq_true, decide_eq_true_eq] at hdigit
        omega
  refine ⟨htext, ?_⟩
  rw [ofText_display_tcp, htext, Url.plainScheme_tcp.read_slashes,
    Url.tidy_of_blankless hblankless]

/-- A plain host comes back from its display. -/
theorem read_display_of_plainHost {host : Bytes} (h : Url.PlainHost host) (port : UInt16) :
    read (tcp (textOf host) port).display = .ok (tcp (textOf host) port) := by
  have hport := port.toNat_lt
  rw [read, (readUrl_display h.printed port).2, Url.readAuthority_of_plain h (by omega)]
  simp only [ofUrl, bareHost_of_plain h, UInt16.ofNat_toNat]
  rfl

/-- An address of groups does not. -/
theorem read_display_of_groups {groups : List Nat} (hgroups : groups.length = 8) (port : UInt16) :
    read (tcp (textOf (Ipv6.write groups)) port).display
      ≠ .ok (tcp (textOf (Ipv6.write groups)) port) := by
  intro h
  obtain ⟨htext, hdisplay⟩ := readUrl_display (Ipv6.printed_write groups) port
  obtain ⟨url, hurl, hof⟩ := exists_of_read h
  rw [hdisplay] at hurl
  obtain ⟨-, found, hhost, hsame⟩ := host_of_ofUrl hof
  have hplain := Url.plainHost_of_unbracketed (by omega) hurl hhost
  rw [bareHost_of_plain hplain] at hsame
  have hwrite : Ipv6.write groups = found := by
    rw [← htext, hsame, (readUrl_display hplain.printed port).1]
  exact hplain.colon_notMem (hwrite ▸ Ipv6.colon_mem_write (by omega))

/-! ## Endpoints -/

/-- An endpoint that its display gives back: a path that a URL keeps, or a host that is no
address of groups. -/
def Plain : Endpoint → Prop
  | unix path => Url.PlainPath (Bytes.ofText path)
  | tcp host _ => 58 ∉ Bytes.ofText host

/-- **Displays that come back.**  The display of an endpoint that was read is read as that
endpoint if the endpoint is plain, and in no other case. -/
theorem read_display_iff {text : String} {e : Endpoint} (h : read text = .ok e) :
    read e.display = .ok e ↔ e.Plain := by
  cases e with
  | unix path =>
      obtain ⟨url, hurl, hof⟩ := exists_of_read h
      obtain ⟨-, hempty, hroot⟩ := path_of_ofUrl hof
      exact read_display_unix_iff hempty hroot
  | tcp host port =>
      rcases host_of_read h with ⟨bytes, rfl, hplain⟩ | ⟨groups, rfl, hgroups⟩
      · have htext := (readUrl_display hplain.printed port).1
        exact iff_of_true (read_display_of_plainHost hplain port)
          (by rw [Plain, htext]; exact hplain.colon_notMem)
      · have htext := (readUrl_display (Ipv6.printed_write groups) port).1
        refine iff_of_false (read_display_of_groups hgroups port) ?_
        rw [Plain, htext]
        exact not_not_intro (Ipv6.colon_mem_write (by omega))

/-- A blank in a path is read from its escape, and need not be escaped to be read. -/
theorem read_display_iff_with_blank :
    read "unix:///tmp/with%20space.sock" = .ok (unix "/tmp/with space.sock")
      ∧ (read (unix "/tmp/with space.sock").display = .ok (unix "/tmp/with space.sock")
        ↔ (unix "/tmp/with space.sock").Plain)
      ∧ (unix "/tmp/with space.sock").Plain := by
  have hread : read "unix:///tmp/with%20space.sock" = .ok (unix "/tmp/with space.sock") := by rfl
  have hback := read_display_iff hread
  exact ⟨hread, hback, hback.mp (by rfl)⟩

/-- The address of this host loses its brackets, and then no host is read in front of its
first colon. -/
theorem bracketed_address_lost : read "tcp://[::1]:80" = .ok (tcp "::1" 80)
    ∧ (tcp "::1" 80).display = "tcp://::1:80"
    ∧ read "tcp://::1:80" = .error (.url .emptyHost) :=
  ⟨by rfl, by rfl, by rfl⟩

end ChainHost.Endpoint
