import BitmapFont.Proofs.Image.Places

/-!
# The checks of the reader

A reader makes its checks in a fixed order, and the first that fails is the error. There is no other
error: after the check of the length nothing is missing, so that the reader never comes to the end
of a file too early.

## Main definitions

- `Image.Check` — the checks, in the order in which they are made
- `Image.Fails` — a check fails on a file, and with which error
- `Image.FirstFails` — the first of several checks that fails
-/

namespace BitmapFont.Image

/-- What a reader checks. -/
inductive Check
  | minimalLength
  | magic
  | version
  | charset
  | width
  | nameEnd
  | nameAscii
  | totalLength
  | distinctIndices
  deriving DecidableEq

namespace Check

/-- The checks that take part in reading the header, in their order. -/
def ofHeader : List Check :=
  [minimalLength, magic, version, charset, width, nameEnd, nameAscii]

/-- Every check, in the order in which they are made. -/
def all : List Check := ofHeader ++ [totalLength, distinctIndices]

end Check

/-- Whether a check fails on a file, and with which error. -/
inductive Fails (data : List UInt8) : Check → ReadError → Prop
  | minimalLength (short : data.length ≤ Header.nameOffset) :
    Fails data .minimalLength .tooShort
  | magic (other : data.take 2 ≠ Header.magic) : Fails data .magic .wrongMagic
  | version {version : UInt8} (place : data[2]? = some version)
    (other : version ≠ Header.version) : Fails data .version (.unsupportedVersion version)
  | charset {tag : UInt8} (place : data[3]? = some tag)
    (unknown : ∀ charset ∈ Charset.all, charset.tag ≠ tag) :
    Fails data .charset (.unknownCharset tag)
  | width {bits : UInt8} (place : data[4]? = some bits)
    (unsupported : bits.toNat ∉ [8, 16, 32, 64]) : Fails data .width (.unsupportedWidth bits)
  | nameEnd (endless : 0 ∉ data.drop Header.nameOffset) : Fails data .nameEnd .nameUnterminated
  | nameAscii {name rest : List UInt8} (ends : data.drop Header.nameOffset = name ++ 0 :: rest)
    (nonzero : 0 ∉ name) {b : UInt8} (among : b ∈ name) (wide : 128 ≤ b.toNat) :
    Fails data .nameAscii .nameNotAscii
  | totalLength {h : Header} (begins : BeginsWith data h)
    (other : data.length ≠ h.encodedLength + h.glyphCount.toNat * h.recordLength) :
    Fails data .totalLength
      (.wrongLength (h.encodedLength + h.glyphCount.toNat * h.recordLength) h.glyphCount
        data.length)
  | distinctIndices {h : Header} (begins : BeginsWith data h) {i j : Nat} {index : UInt8}
    (counted : i < h.glyphCount.toNat) (earlier : j < i)
    (place : data[h.glyphPlace i]? = some index) (again : data[h.glyphPlace j]? = some index)
    (first : ∀ i' < i, ∀ j' < i', data[h.glyphPlace i']? ≠ data[h.glyphPlace j']?) :
    Fails data .distinctIndices (.duplicateIndex index)

/-- Whether one of several checks fails with an error and none before it fails. -/
def FirstFails (data : List UInt8) (checks : List Check) (e : ReadError) : Prop :=
  ∃ before check after, checks = before ++ check :: after ∧
    (∀ c ∈ before, ∀ e', ¬ Fails data c e') ∧ Fails data check e

variable {data body : List UInt8} {check : Check} {checks : List Check} {e e' : ReadError}

theorem firstFails_nil : ¬ FirstFails data [] e := by
  rintro ⟨before, check, after, split, _⟩
  exact List.append_ne_nil_of_right_ne_nil _ (List.cons_ne_nil _ _) split.symm

theorem firstFails_cons :
    FirstFails data (check :: checks) e ↔
      Fails data check e ∨ (∀ e', ¬ Fails data check e') ∧ FirstFails data checks e :=
  exists_split_cons_iff

/-- One of several checks is the first that fails, unless none fails. -/
theorem exists_firstFails_iff :
    (∃ e, FirstFails data checks e) ↔ ∃ check ∈ checks, ∃ e, Fails data check e := by
  constructor
  · rintro ⟨e, before, check, after, rfl, -, fails⟩
    exact ⟨check, List.mem_append_right _ List.mem_cons_self, e, fails⟩
  · intro h
    obtain ⟨before, check, after, split, ⟨e, fails⟩, fine⟩ := exists_first h
    exact ⟨e, before, check, after, split, fun c hc e' h => fine c hc ⟨e', h⟩, fails⟩

/-- No check fails if none is the first that fails. -/
theorem forall_not_fails_iff :
    (∀ check ∈ checks, ∀ e, ¬ Fails data check e) ↔ ∀ e, ¬ FirstFails data checks e := by
  rw [← not_exists, exists_firstFails_iff]
  simp only [not_exists, not_and]

theorem firstFails_append {more : List Check} :
    FirstFails data (checks ++ more) e ↔
      FirstFails data checks e ∨
        (∀ c ∈ checks, ∀ e', ¬ Fails data c e') ∧ FirstFails data more e := by
  induction checks with
  | nil => simp [firstFails_nil]
  | cons c rest ih =>
    rw [List.cons_append, firstFails_cons, firstFails_cons, ih, List.forall_mem_cons]
    tauto

/-- If a check fails under a condition, its error is the first one. -/
theorem firstFails_cons_of_not {condition : Prop}
    (fails : ∀ e, Fails data check e ↔ ¬ condition ∧ e = e') (failed : ¬ condition) :
    FirstFails data (check :: checks) e ↔ e = e' := by
  rw [firstFails_cons, fails]
  constructor
  · rintro (⟨_, same⟩ | ⟨passed, _⟩)
    · exact same
    · exact absurd ((fails e').2 ⟨failed, rfl⟩) (passed e')
  · exact fun same => Or.inl ⟨failed, same⟩

/-- If a check does not fail, those after it decide. -/
theorem firstFails_cons_of {condition : Prop}
    (fails : ∀ e, Fails data check e ↔ ¬ condition ∧ e = e') (holds : condition) :
    FirstFails data (check :: checks) e ↔ FirstFails data checks e := by
  have passed (e : ReadError) : ¬ Fails data check e := fun h => ((fails e).1 h).1 holds
  rw [firstFails_cons]
  exact ⟨fun h => (h.resolve_left (passed e)).2, fun h => Or.inr ⟨passed, h⟩⟩

theorem throw_eq_error_iff {α : Type} : (throw e' : Except ReadError α) = .error e ↔ e = e' :=
  ⟨fun h => (Except.error.inj h).symm, fun h => h ▸ rfl⟩

/-- A step that makes a check. -/
theorem require_bind_eq_error_iff {α : Type} {condition : Prop} [Decidable condition]
    {next : Unit → Except ReadError α}
    (fails : ∀ e, Fails data check e ↔ ¬ condition ∧ e = e')
    (others : condition → (next () = .error e ↔ FirstFails data checks e)) :
    (require condition e' >>= next) = .error e ↔ FirstFails data (check :: checks) e := by
  by_cases holds : condition
  · rw [firstFails_cons_of fails holds, ← others holds, require, if_pos holds]
    rfl
  · rw [firstFails_cons_of_not fails holds, require, if_neg holds]
    exact throw_eq_error_iff

/-! ### The checks of the header -/

theorem fails_minimalLength_iff :
    Fails data .minimalLength e ↔ ¬ Header.nameOffset < data.length ∧ e = .tooShort := by
  rw [Nat.not_lt]
  constructor
  · rintro ⟨short⟩
    exact ⟨short, rfl⟩
  · rintro ⟨short, rfl⟩
    exact .minimalLength short

theorem fails_magic_iff :
    Fails data .magic e ↔ ¬ data.take 2 = Header.magic ∧ e = .wrongMagic := by
  constructor
  · intro fails
    cases fails with
    | magic other => exact ⟨other, rfl⟩
  · rintro ⟨other, rfl⟩
    exact .magic other

theorem fails_version_iff {version : UInt8} (place : data[2]? = some version) :
    Fails data .version e ↔ ¬ version = Header.version ∧ e = .unsupportedVersion version := by
  constructor
  · intro fails
    cases fails with
    | version place' other =>
      obtain rfl := Option.some.inj (place.symm.trans place')
      exact ⟨other, rfl⟩
  · rintro ⟨other, rfl⟩
    exact .version place other

theorem fails_charset_iff {tag : UInt8} (place : data[3]? = some tag) :
    Fails data .charset e ↔ ¬ (Charset.ofTag? tag).isSome = true ∧ e = .unknownCharset tag := by
  rw [isSome_ofTag?]
  constructor
  · intro fails
    cases fails with
    | charset place' unknown =>
      obtain rfl := Option.some.inj (place.symm.trans place')
      exact ⟨fun ⟨charset, among, same⟩ => unknown charset among same, rfl⟩
  · rintro ⟨unknown, rfl⟩
    exact .charset place fun charset among same => unknown ⟨charset, among, same⟩

theorem fails_width_iff {bits : UInt8} (place : data[4]? = some bits) :
    Fails data .width e ↔ ¬ (∃ width : RowWidth, width.bits = bits.toNat) ∧
      e = .unsupportedWidth bits := by
  rw [RowWidth.exists_bits_iff]
  constructor
  · intro fails
    cases fails with
    | width place' unsupported =>
      obtain rfl := Option.some.inj (place.symm.trans place')
      exact ⟨unsupported, rfl⟩
  · rintro ⟨unsupported, rfl⟩
    exact .width place unsupported

theorem fails_nameEnd_iff :
    Fails data .nameEnd e ↔ ¬ 0 ∈ data.drop Header.nameOffset ∧ e = .nameUnterminated := by
  constructor
  · intro fails
    cases fails with
    | nameEnd endless => exact ⟨endless, rfl⟩
  · rintro ⟨endless, rfl⟩
    exact .nameEnd endless

theorem fails_nameAscii_iff {name rest : List UInt8}
    (ends : data.drop Header.nameOffset = name ++ 0 :: rest) (nonzero : 0 ∉ name) :
    Fails data .nameAscii e ↔ ¬ name.all (·.toNat < 128) = true ∧ e = .nameNotAscii := by
  have wide_iff : ¬ name.all (·.toNat < 128) = true ↔ ∃ b ∈ name, 128 ≤ b.toNat := by simp
  rw [wide_iff]
  constructor
  · intro fails
    cases fails with
    | @nameAscii name' rest' ends' nonzero' b among wide =>
      -- The name ends at the first zero byte, so there is only one way to split it off.
      have first := Text.takeWhile_dropWhile_ne_iff.2 ⟨rfl, nonzero, ends⟩
      have first' := Text.takeWhile_dropWhile_ne_iff.2 ⟨rfl, nonzero', ends'⟩
      obtain rfl := first'.1.symm.trans first.1
      exact ⟨⟨b, among, wide⟩, rfl⟩
  · rintro ⟨⟨b, among, wide⟩, rfl⟩
    exact .nameAscii ends nonzero among wide

theorem exists_bytes_of_length (long : Header.nameOffset ≤ data.length) :
    ∃ m₀ m₁ version tag bits height count red green blue body,
      data = m₀ :: m₁ :: version :: tag :: bits :: height :: count :: red :: green :: blue
        :: body := by
  rcases data with _ | ⟨m₀, _ | ⟨m₁, _ | ⟨version, _ | ⟨tag, _ | ⟨bits, _ | ⟨height, _ | ⟨count,
    _ | ⟨red, _ | ⟨green, _ | ⟨blue, body⟩⟩⟩⟩⟩⟩⟩⟩⟩⟩
  case cons.cons.cons.cons.cons.cons.cons.cons.cons.cons =>
    exact ⟨_, _, _, _, _, _, _, _, _, _, _, rfl⟩
  all_goals simp [Header.nameOffset] at long

theorem readHeader_of_short (short : data.length < Header.nameOffset) :
    readHeader data = .error .tooShort := by
  unfold readHeader
  split
  case h_1 =>
    simp only [List.length_cons, Header.nameOffset] at short
    omega
  case h_2 => rfl

/-- The first check of the header that fails is the error. -/
theorem readHeader_eq_error_iff :
    readHeader data = .error e ↔ FirstFails data Check.ofHeader e := by
  by_cases short : data.length < Header.nameOffset
  · have failed : ¬ Header.nameOffset < data.length := Nat.not_lt.2 (Nat.le_of_lt short)
    rw [readHeader_of_short short, Check.ofHeader,
      firstFails_cons_of_not (fun e => fails_minimalLength_iff) failed]
    exact throw_eq_error_iff
  obtain ⟨m₀, m₁, version, tag, bits, height, count, red, green, blue, body, rfl⟩ :=
    exists_bytes_of_length (Nat.not_lt.1 short)
  unfold readHeader
  -- The reader checks the bytes of the header one after the other, as the list of checks does.
  refine require_bind_eq_error_iff (fun e => ?_) fun nonempty => ?_
  · rw [fails_minimalLength_iff, ← List.length_pos_iff]
    simp [Header.nameOffset]
  refine require_bind_eq_error_iff (fun e => fails_magic_iff) fun _ => ?_
  refine require_bind_eq_error_iff (fun e => fails_version_iff rfl) fun _ => ?_
  refine require_bind_eq_error_iff (fun e => fails_charset_iff rfl) fun _ => ?_
  split
  case h_2 unsupported =>
    have failed : ¬ ∃ width : RowWidth, width.bits = bits.toNat := by
      rintro ⟨width, same⟩
      exact unsupported width (RowWidth.ofBits?_eq_some_iff.2 same)
    rw [firstFails_cons_of_not (fun e => fails_width_iff rfl) failed]
    exact throw_eq_error_iff
  case h_1 width supported =>
    rw [firstFails_cons_of (fun e => fails_width_iff rfl)
      ⟨width, RowWidth.ofBits?_eq_some_iff.1 supported⟩]
    -- The name is what comes before the first zero byte, if there is one.
    split
    case h_2 endless =>
      refine throw_eq_error_iff.trans
        (firstFails_cons_of_not (fun e => fails_nameEnd_iff) fun zero => ?_).symm
      obtain ⟨before, after, same, absent⟩ := List.eq_append_cons_of_mem zero
      obtain ⟨-, tail⟩ := Text.takeWhile_dropWhile_ne_iff.2 ⟨rfl, absent, same⟩
      exact endless 0 after tail
    case h_1 z rest tail =>
      obtain ⟨rfl, nonzero, same⟩ := Text.takeWhile_dropWhile_ne_iff.1 ⟨rfl, tail⟩
      refine Iff.trans ?_ (firstFails_cons_of (fun e => fails_nameEnd_iff) ?_).symm
      rotate_left
      · change 0 ∈ body
        rw [same]
        exact List.mem_append_right _ List.mem_cons_self
      refine require_bind_eq_error_iff (fun e => fails_nameAscii_iff same nonzero) fun _ => ?_
      exact iff_of_false (pure_ne_error _ _) firstFails_nil

/-! ### The checks of the whole file -/

variable {h : Header} {f : Font}

theorem fails_totalLength_iff (begins : BeginsWith data h) :
    let expected := h.encodedLength + h.glyphCount.toNat * h.recordLength
    Fails data .totalLength e ↔
      ¬ data.length = expected ∧ e = .wrongLength expected h.glyphCount data.length := by
  constructor
  · intro fails
    cases fails with
    | totalLength begins' other =>
      obtain rfl := begins'.unique begins
      exact ⟨other, rfl⟩
  · rintro ⟨other, rfl⟩
    exact .totalLength begins other

/-- In the layout of a font the check of the indices fails at the first glyph whose index comes
again. -/
theorem fails_distinctIndices_iff (shaped : f.WellShaped) :
    Fails (fontBytes f) .distinctIndices e ↔
      ∃ before g after, f.glyphs = before ++ g :: after ∧ (before.map (·.index)).Nodup ∧
        g.index ∈ before.map (·.index) ∧ e = .duplicateIndex g.index := by
  have begins : BeginsWith (fontBytes f) f.header :=
    ⟨shaped.charset, shaped.name, List.prefix_append _ _⟩
  constructor
  · intro fails
    cases fails with
    | @distinctIndices h begins' i j index counted earlier place again first =>
      obtain rfl := begins.unique begins'
      rw [shaped.count] at counted
      have here : f.glyphs[i].index = index :=
        Option.some.inj ((getElem?_glyphPlace shaped counted).symm.trans place)
      have there : f.glyphs[j].index = index :=
        Option.some.inj ((getElem?_glyphPlace shaped (earlier.trans counted)).symm.trans again)
      refine ⟨f.glyphs.take i, f.glyphs[i], f.glyphs.drop (i + 1), ?_, ?_, ?_, by rw [here]⟩
      · rw [← List.drop_eq_getElem_cons counted, List.take_append_drop]
      · -- Among the glyphs before this one an index would come again earlier.
        rw [List.Nodup, List.pairwise_iff_getElem]
        intro k l hk hl before same
        rw [List.length_map, List.length_take] at hl
        have hl : l < i := hl.trans_le (Nat.min_le_left _ _)
        refine first l hl k before ?_
        rw [getElem?_glyphPlace shaped (hl.trans counted),
          getElem?_glyphPlace shaped (before.trans (hl.trans counted))]
        simpa using same.symm
      · rw [here, ← there]
        refine List.mem_map_of_mem ?_
        exact List.mem_take_iff_getElem.2 ⟨j, by omega, rfl⟩
  · rintro ⟨before, g, after, split, distinct, again, rfl⟩
    obtain ⟨b, among, same⟩ := List.mem_map.1 again
    obtain ⟨j, hj, rfl⟩ := List.getElem_of_mem among
    have length : before.length < f.glyphs.length := by
      rw [split, List.length_append, List.length_cons]
      omega
    have inBefore {k : Nat} (hk : k < before.length) :
        (fontBytes f)[f.header.glyphPlace k]? = some before[k].index := by
      rw [getElem?_glyphPlace shaped (hk.trans length)]
      simp [split, List.getElem_append_left hk]
    refine .distinctIndices begins (i := before.length) (j := j) ?_ hj ?_ ?_ ?_
    · rwa [shaped.count]
    · rw [getElem?_glyphPlace shaped length]
      simp [split]
    · rw [inBefore hj, same]
    · intro l hl k before' equal
      rw [inBefore hl, inBefore (before'.trans hl)] at equal
      rw [List.Nodup, List.pairwise_iff_getElem] at distinct
      have different := distinct k l (by simpa using before'.trans hl) (by simpa using hl) before'
      exact different (by simpa using (Option.some.inj equal).symm)

/-- The layout of a font of the right shape is refused only for an index that comes again. -/
theorem read_fontBytes_eq_error_iff (shaped : f.WellShaped) :
    read (fontBytes f) = .error e ↔ Fails (fontBytes f) .distinctIndices e := by
  rw [fails_distinctIndices_iff shaped]
  constructor
  · intro refused
    have repeated : ¬ (f.glyphs.map (·.index)).Nodup := by
      intro distinct
      have accepted : read (fontBytes f) = .ok f :=
        read_eq_ok_iff.2 ⟨Font.wellFormed_iff.2 ⟨shaped, distinct⟩, rfl⟩
      exact ne_ok_of_error refused f accepted
    obtain ⟨before, g, after, split, distinct, again⟩ := exists_first_repeated repeated
    have first := read_fontBytes_of_repeated shaped split distinct again
    exact ⟨before, g, after, split, distinct, again, Except.error.inj (refused.symm.trans first)⟩
  · rintro ⟨before, g, after, split, distinct, again, rfl⟩
    exact read_fontBytes_of_repeated shaped split distinct again

/-- After the header the first of the other checks that fails is the error. -/
theorem BeginsWith.read_eq_error_iff (begins : BeginsWith data h) :
    read data = .error e ↔ FirstFails data [.totalLength, .distinctIndices] e := by
  obtain ⟨rest, header⟩ := beginsWith_iff.1 begins
  rw [read, header]
  refine require_bind_eq_error_iff (fun e => fails_totalLength_iff begins) fun length => ?_
  obtain ⟨f, rfl, shaped, rfl⟩ := begins.exists_font length
  rw [firstFails_cons, or_iff_left fun others => firstFails_nil others.2,
    ← read_fontBytes_eq_error_iff shaped, read, header]
  change _ ↔ (require _ _ >>= _) = _
  rw [(require_eq_ok_iff (u := ())).2 length]
  rfl

/-- The first check that fails is the error. -/
theorem read_eq_error_iff : read data = .error e ↔ FirstFails data Check.all e := by
  rw [Check.all, firstFails_append, forall_not_fails_iff]
  simp only [← readHeader_eq_error_iff]
  cases header : readHeader data with
  | error e' =>
    have refused : read data = .error e' := bind_eq_error_iff.2 (Or.inl header)
    rw [refused, Except.error.injEq, Except.error.injEq]
    exact ⟨Or.inl, fun first => first.resolve_right fun fine => fine.1 e' rfl⟩
  | ok found =>
    have begins : BeginsWith data found.1 := beginsWith_iff.2 ⟨found.2, header⟩
    rw [begins.read_eq_error_iff]
    simp

/-- A file is refused for the first check that fails, and accepted if none does. It never ends too
early: once its length is right, no read goes beyond its end and the last one comes to it. -/
theorem first_failed_check_is_the_error (data : List UInt8) :
    (∀ e, read data = .error e ↔ FirstFails data Check.all e) ∧
      ((∃ f, read data = .ok f) ↔ ∀ check ∈ Check.all, ∀ e, ¬ Fails data check e) ∧
        read data ≠ .error .unexpectedEnd ∧
          ∀ h, BeginsWith data h →
            data.length = h.encodedLength + h.glyphCount.toNat * h.recordLength →
              ReadsWithin data h := by
  refine ⟨fun e => read_eq_error_iff, ?_, ?_, fun h begins length => begins.readsWithin length⟩
  · rw [exists_ok_iff, forall_not_fails_iff]
    exact forall_congr' fun e => not_congr read_eq_error_iff
  · intro early
    obtain ⟨_, _, _, _, _, fails⟩ := read_eq_error_iff.1 early
    cases fails

/-- The second of two glyphs with one index is found in its place. -/
theorem first_failed_check_is_the_error_repeated :
    let data := [0xBF, 0xFF, 1, 0, 8, 1, 2, 255, 255, 255, 0x46, 0, 0x41, 1, 0x41, 2]
    let h : Header := ⟨0, .w8, 1, 2, ⟨255, 255, 255⟩, "F"⟩
    FirstFails data Check.all (.duplicateIndex 0x41) ∧
      data.length = h.encodedLength + h.glyphCount.toNat * h.recordLength ∧
        ReadsWithin data h := by
  intro data h
  obtain ⟨refused, _, _, within⟩ := first_failed_check_is_the_error data
  have length : data.length = h.encodedLength + h.glyphCount.toNat * h.recordLength := by decide
  have begins : BeginsWith data h := ⟨by decide, by decide, [0x41, 1, 0x41, 2], by decide⟩
  exact ⟨(refused _).1 rfl, length, within h begins length⟩

end BitmapFont.Image
