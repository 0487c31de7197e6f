import RequestRouter.Proofs.Template.Braces
import RequestRouter.Text.Utf8

/-!
# The bounds of the parts in braces

A template can also be scanned byte by byte: the level is counted over the bytes of the text, and the byte
offsets are noted where it leaves zero and where it is zero again. The text is then sliced at these offsets,
which fails inside a character and out of range. No byte of another character is a brace, so the offsets are
those of the pieces, and no slice fails.

* `boundsFrom?`, `bounds?`: the bounds of the parts in braces, unless braces are unbalanced.
* `slice?`, `cutsFrom?`, `Sliced`: a slice of a text, and the slices at some bounds.
* `eq_of_mem_utf8EncodeChar`: an ASCII byte is a character of its own.
* `bounds?_eq_none_iff`, `sliced_of_split?`: **scanning the bytes and slicing** fails for unbalanced braces
  only, and gives the pieces of the text.
-/

namespace RequestRouter.Template

open Text (Utf8.encode)

/-! ### Scanning and slicing -/

/-- The bounds of the parts in braces in bytes from offset `i` on, at a given level. A part that has begun
begins at `start`. -/
def boundsFrom? (level start i : Nat) : List UInt8 → Option (List (Nat × Nat))
  | [] => if level = 0 then some [] else none
  | b :: bytes =>
    if b = '{'.toUInt8 then
      boundsFrom? (level + 1) (if level = 0 then i else start) (i + 1) bytes
    else if b = '}'.toUInt8 then
      if level = 0 then none
      else if level = 1 then (boundsFrom? 0 start (i + 1) bytes).map ((start, i + 1) :: ·)
      else boundsFrom? (level - 1) start (i + 1) bytes
    else boundsFrom? level start (i + 1) bytes

/-- The bounds of the parts in braces of a text, from the opening brace to behind the closing one. -/
def bounds? (text : String) : Option (List (Nat × Nat)) :=
  boundsFrom? 0 0 0 (Utf8.encode text.toList)

/-- The text between two byte offsets, unless they are in the wrong order, out of range or inside a
character. -/
def slice? (text : String) (start stop : Nat) : Option String :=
  if h : start ≤ stop ∧ String.Pos.Raw.IsValid text ⟨start⟩ ∧ String.Pos.Raw.IsValid text ⟨stop⟩ then
    some (text.extract ⟨⟨start⟩, h.2.1⟩ ⟨⟨stop⟩, h.2.2⟩)
  else none

/-- The slices for one part in braces. -/
structure Cut where
  /-- The text since the part before. -/
  raw : String
  /-- The part without its outer braces. -/
  part : String
  /-- The part with them. -/
  whole : String

/-- The slices for the parts in braces with given bounds, from the end of the last part on, and the text
that remains. -/
def cutsFrom? (text : String) (last : Nat) : List (Nat × Nat) → Option (List Cut × String)
  | [] => (slice? text last text.utf8ByteSize).map fun tail => ([], tail)
  | (start, stop) :: bounds => do
    let raw ← slice? text last start
    let part ← slice? text (start + 1) (stop - 1)
    let whole ← slice? text start stop
    let (cuts, tail) ← cutsFrom? text stop bounds
    return (⟨raw, part, whole⟩ :: cuts, tail)

/-- The pieces for one part in braces. -/
def Cut.pieces (c : Cut) : List Piece :=
  Piece.literalOf c.raw.toList.reverse ++ [.braced c.part.toList]

/-- Scanning the bytes of a text and slicing it at the bounds does not fail, and gives these pieces. -/
def Sliced (text : String) (pieces : List Piece) : Prop :=
  ∃ bounds cuts tail, bounds? text = some bounds ∧ cutsFrom? text 0 bounds = some (cuts, tail) ∧
    cuts.flatMap Cut.pieces ++ Piece.literalOf tail.toList.reverse = pieces ∧
    ∀ c ∈ cuts, c.whole.toList = (Piece.braced c.part.toList).text

/-- How many bytes a text has. -/
def byteSize (cs : List Char) : Nat :=
  (Utf8.encode cs).length

variable {cs body before raw : List Char} {c : Char} {b : UInt8} {k m level start i : Nat}
  {bytes rest : List UInt8} {pieces : List Piece}

theorem byteSize_append (cs rest : List Char) : byteSize (cs ++ rest) = byteSize cs + byteSize rest := by
  rw [byteSize, Utf8.encode, List.flatMap_append, List.length_append]
  rfl

theorem encode_append (cs rest : List Char) :
    Utf8.encode (cs ++ rest) = Utf8.encode cs ++ Utf8.encode rest :=
  List.flatMap_append

/-! ### Braces as bytes -/

/-- An ASCII byte is a character of its own. -/
theorem eq_of_mem_utf8EncodeChar (h : b ∈ String.utf8EncodeChar c) (hascii : b.toNat < 128) :
    b.toNat = c.toNat := by
  have hc : c.toNat = c.val.toNat := rfl
  unfold String.utf8EncodeChar at h
  dsimp only at h
  -- every byte of a character that takes several is at least 128
  split at h
  · rw [List.mem_singleton] at h
    subst h
    simp only [UInt8.toNat_ofNat'] at hascii ⊢
    omega
  · split at h
    · simp only [List.mem_cons, List.not_mem_nil, or_false] at h
      rcases h with rfl | rfl <;> simp only [UInt8.toNat_ofNat'] at hascii <;> omega
    · split at h
      · simp only [List.mem_cons, List.not_mem_nil, or_false] at h
        rcases h with rfl | rfl | rfl <;> simp only [UInt8.toNat_ofNat'] at hascii <;> omega
      · simp only [List.mem_cons, List.not_mem_nil, or_false] at h
        rcases h with rfl | rfl | rfl | rfl <;> simp only [UInt8.toNat_ofNat'] at hascii <;> omega

theorem boundsFrom?_skip (h : ∀ b ∈ bytes, b ≠ '{'.toUInt8 ∧ b ≠ '}'.toUInt8) (rest : List UInt8) :
    boundsFrom? level start i (bytes ++ rest) = boundsFrom? level start (i + bytes.length) rest := by
  induction bytes generalizing i with
  | nil => rfl
  | cons b bytes ih =>
    obtain ⟨⟨hopen, hclose⟩, hbytes⟩ := List.forall_mem_cons.1 h
    rw [List.cons_append, boundsFrom?, if_neg hopen, if_neg hclose, ih hbytes, List.length_cons,
      Nat.add_assoc, Nat.add_comm 1]

/-- The bytes of another character are no braces. -/
theorem boundsFrom?_char (hopen : c ≠ '{') (hclose : c ≠ '}') (cs : List Char) (rest : List UInt8) :
    boundsFrom? level start i (Utf8.encode (c :: cs) ++ rest) =
      boundsFrom? level start (i + byteSize [c]) (Utf8.encode cs ++ rest) := by
  have hbytes : ∀ b ∈ Utf8.encode [c], b ≠ '{'.toUInt8 ∧ b ≠ '}'.toUInt8 := by
    intro b hb
    rw [Utf8.encode, List.flatMap_singleton] at hb
    constructor
    · rintro rfl
      exact hopen (Char.toNat_inj.1 (eq_of_mem_utf8EncodeChar hb (by decide)).symm)
    · rintro rfl
      exact hclose (Char.toNat_inj.1 (eq_of_mem_utf8EncodeChar hb (by decide)).symm)
  rw [← List.singleton_append, encode_append, List.append_assoc, boundsFrom?_skip hbytes]
  rfl

theorem boundsFrom?_open (cs : List Char) (rest : List UInt8) :
    boundsFrom? level start i (Utf8.encode ('{' :: cs) ++ rest) =
      boundsFrom? (level + 1) (if level = 0 then i else start) (i + 1) (Utf8.encode cs ++ rest) := rfl

theorem boundsFrom?_close (cs : List Char) (rest : List UInt8) :
    boundsFrom? (level + 2) start i (Utf8.encode ('}' :: cs) ++ rest) =
      boundsFrom? (level + 1) start (i + 1) (Utf8.encode cs ++ rest) := rfl

theorem boundsFrom?_close_zero (cs : List Char) (rest : List UInt8) :
    boundsFrom? 0 start i (Utf8.encode ('}' :: cs) ++ rest) = none := rfl

theorem boundsFrom?_end (cs : List Char) (rest : List UInt8) :
    boundsFrom? 1 start i (Utf8.encode ('}' :: cs) ++ rest) =
      (boundsFrom? 0 start (i + 1) (Utf8.encode cs ++ rest)).map ((start, i + 1) :: ·) := rfl

theorem byteSize_cons (c : Char) (cs : List Char) : byteSize (c :: cs) = byteSize [c] + byteSize cs := by
  rw [← List.singleton_append, byteSize_append]

theorem boundsFrom?_literal (hopen : '{' ∉ cs) (hclose : '}' ∉ cs) (rest : List UInt8) :
    boundsFrom? level start i (Utf8.encode cs ++ rest) = boundsFrom? level start (i + byteSize cs) rest := by
  induction cs generalizing i with
  | nil => rfl
  | cons c cs ih =>
    rw [List.mem_cons, not_or] at hopen hclose
    rw [boundsFrom?_char (Ne.symm hopen.1) (Ne.symm hclose.1), ih hopen.2 hclose.2, byteSize_cons c cs,
      Nat.add_assoc]

/-- Inside a part in braces, the scan goes along with the level. -/
theorem boundsFrom?_body (h : Leads m k body) (rest : List UInt8) :
    boundsFrom? (k + 1) start i (Utf8.encode body ++ rest) =
      boundsFrom? (m + 1) start (i + byteSize body) rest := by
  induction h generalizing i with
  | nil => rfl
  | @opening k cs _ ih =>
    rw [boundsFrom?_open, if_neg (Nat.succ_ne_zero k), ih, byteSize_cons '{' cs, ← Nat.add_assoc]
    rfl
  | @closing k cs _ ih =>
    rw [boundsFrom?_close, ih, byteSize_cons '}' cs, ← Nat.add_assoc]
    rfl
  | @other k c cs hopen hclose _ ih =>
    rw [boundsFrom?_char hopen hclose, ih, byteSize_cons c cs, ← Nat.add_assoc]

theorem isSome_boundsFrom? (cs : List Char) :
    (boundsFrom? level start i (Utf8.encode cs)).isSome ↔ levelAfter? level cs = some 0 := by
  rw [← List.append_nil (Utf8.encode cs)]
  induction cs generalizing level start i with
  | nil => cases level <;> simp [boundsFrom?, Utf8.encode, levelAfter?]
  | cons c cs ih =>
    by_cases hopen : c = '{'
    · rw [hopen, boundsFrom?_open, ih, levelAfter?_open]
    · by_cases hclose : c = '}'
      · rw [hclose]
        cases level with
        | zero =>
          rw [boundsFrom?_close_zero, levelAfter?_close_zero]
          simp
        | succ level =>
          cases level with
          | zero => rw [boundsFrom?_end, Option.isSome_map, ih, levelAfter?_close]
          | succ level => rw [boundsFrom?_close, ih, levelAfter?_close]
      · rw [boundsFrom?_char hopen hclose, ih, levelAfter?_of_ne hopen hclose]

/-- Scanning the bytes fails for unbalanced braces only. -/
theorem bounds?_eq_none_iff {text : String} : bounds? text = none ↔ Unbalanced text.toList := by
  rw [unbalanced_iff, balanced_iff, ← isSome_boundsFrom?, Bool.not_eq_true, Option.isSome_eq_false_iff,
    Option.isNone_iff_eq_none]
  rfl

/-! ### The bounds of pieces -/

/-- The bounds of the parts in braces among pieces of which the first begins at offset `i`. -/
def boundsOf (i : Nat) : List Piece → List (Nat × Nat)
  | [] => []
  | .literal text :: pieces => boundsOf (i + byteSize text) pieces
  | .braced body :: pieces =>
    (i, i + byteSize (Piece.braced body).text) :: boundsOf (i + byteSize (Piece.braced body).text) pieces

theorem byteSize_braced (body : List Char) : byteSize (Piece.braced body).text = byteSize body + 2 := by
  rw [Piece.text, List.cons_append, byteSize_cons, byteSize_append]
  exact Nat.add_comm 1 _

theorem boundsFrom?_of_grammar (h : Piece.Grammar pieces) :
    boundsFrom? 0 start i (Utf8.encode (pieces.flatMap Piece.text)) = some (boundsOf i pieces) := by
  induction h generalizing start i with
  | nil => rfl
  | literal _ hopen hclose _ _ ih =>
    rw [List.flatMap_cons, encode_append]
    exact (boundsFrom?_literal hopen hclose _).trans ih
  | @braced body pieces hbody _ ih =>
    have htext : (Piece.braced body :: pieces).flatMap Piece.text =
        '{' :: (body ++ '}' :: pieces.flatMap Piece.text) := by
      simp [Piece.text]
    have hstop : i + 1 + byteSize body + 1 = i + byteSize (Piece.braced body).text := by
      rw [byteSize_braced]
      omega
    rw [htext, ← List.append_nil (Utf8.encode _), boundsFrom?_open, if_pos rfl, List.append_nil,
      encode_append, boundsFrom?_body (leads_of_levelAfter? (balanced_iff.1 hbody)), ← List.append_nil (Utf8.encode _),
      boundsFrom?_end, List.append_nil, ih, hstop]
    rfl

/-! ### Slices at the bounds of pieces -/

theorem bytes_ofList (cs : List Char) :
    (String.ofList cs).toByteArray.data.toList = Utf8.encode cs := by
  simp [String.toByteArray_ofList, List.utf8Encode, Utf8.encode]

theorem utf8ByteSize_ofList (cs : List Char) : (String.ofList cs).utf8ByteSize = byteSize cs := by
  rw [← String.size_toByteArray, ← ByteArray.size_data, ← Array.length_toList, bytes_ofList, byteSize]

theorem extract_bytes (before cs after : List Char) :
    (String.ofList (before ++ cs ++ after)).toByteArray.extract (byteSize before) (byteSize (before ++ cs)) =
      (String.ofList cs).toByteArray := by
  refine ByteArray.ext (Array.toList_inj.1 ?_)
  rw [ByteArray.data_extract, Array.toList_extract, bytes_ofList, bytes_ofList, encode_append,
    encode_append, byteSize_append, byteSize, byteSize]
  simp [List.extract_eq_take_drop]

/-- An offset between two parts of a text is not inside a character. -/
theorem isValid_byteSize (before after : List Char) :
    String.Pos.Raw.IsValid (.ofList (before ++ after)) ⟨byteSize before⟩ := by
  refine String.Pos.Raw.isValid_iff_exists_append.2
    ⟨.ofList before, .ofList after, String.ofList_append, ?_⟩
  rw [← utf8ByteSize_ofList]
  rfl

/-- **A part of a text** is a slice of it. -/
theorem slice?_of_append {text : String} {after : List Char}
    (h : text.toList = before ++ cs ++ after) :
    slice? text (byteSize before) (byteSize (before ++ cs)) = some (.ofList cs) := by
  have htext : text = .ofList (before ++ cs ++ after) := by rw [← h, String.ofList_toList]
  subst htext
  have hle : byteSize before ≤ byteSize (before ++ cs) := by
    rw [byteSize_append]
    exact Nat.le_add_right _ _
  have hstart : String.Pos.Raw.IsValid (.ofList (before ++ cs ++ after)) ⟨byteSize before⟩ := by
    rw [List.append_assoc]
    exact isValid_byteSize before _
  rw [slice?, dif_pos ⟨hle, hstart, isValid_byteSize (before ++ cs) after⟩, Option.some.injEq,
    ← String.toByteArray_inj, String.toByteArray_extract]
  exact extract_bytes before cs after

/-- What is between the braces of a part is a slice as well. -/
theorem slice?_body {text : String} {after : List Char}
    (h : text.toList = before ++ (Piece.braced body).text ++ after) :
    slice? text (byteSize before + 1) (byteSize (before ++ (Piece.braced body).text) - 1) =
      some (.ofList body) := by
  have hinside : text.toList = before ++ ['{'] ++ body ++ '}' :: after := by
    rw [h, Piece.text]
    simp
  have hstart : byteSize before + 1 = byteSize (before ++ ['{']) := (byteSize_append before ['{']).symm
  have hstop : byteSize (before ++ (Piece.braced body).text) - 1 = byteSize (before ++ ['{'] ++ body) := by
    rw [byteSize_append, byteSize_braced, byteSize_append, ← hstart]
    omega
  rw [hstart, hstop, slice?_of_append hinside]

/-- **The slices at the bounds of pieces**, when `raw` has been passed since the last part. -/
theorem cutsFrom?_of_grammar {text : String} (h : Piece.Grammar pieces)
    (hraw : ∀ next, pieces.head? = some (.literal next) → raw = [])
    (htext : text.toList = before ++ raw ++ pieces.flatMap Piece.text) :
    ∃ cuts tail, cutsFrom? text (byteSize before) (boundsOf (byteSize (before ++ raw)) pieces) =
        some (cuts, tail) ∧
      cuts.flatMap Cut.pieces ++ Piece.literalOf tail.toList.reverse =
        Piece.literalOf raw.reverse ++ pieces ∧
      ∀ c ∈ cuts, c.whole.toList = (Piece.braced c.part.toList).text := by
  induction h generalizing before raw with
  | nil =>
    rw [List.flatMap_nil] at htext
    have hsize : text.utf8ByteSize = byteSize (before ++ raw) := by
      rw [← utf8ByteSize_ofList, ← List.append_nil (before ++ raw), ← htext, String.ofList_toList]
    refine ⟨[], .ofList raw, ?_, ?_, nofun⟩
    · rw [boundsOf, cutsFrom?, hsize, slice?_of_append htext]
      rfl
    · rw [String.toList_ofList, List.append_nil]
      rfl
  | @literal literal pieces hne _ _ hapart _ ih =>
    -- literal text is passed, and sliced with the part that comes next
    obtain rfl := hraw literal rfl
    rw [List.append_nil] at htext ⊢
    obtain ⟨cuts, tail, hcuts, hpieces, hwhole⟩ := @ih before literal
      (fun next hnext => absurd hnext (hapart next)) (by rw [htext, List.flatMap_cons]; simp [Piece.text])
    refine ⟨cuts, tail, ?_, ?_, hwhole⟩
    · rw [boundsOf, ← byteSize_append, hcuts]
    · rw [hpieces, Piece.literalOf_reverse hne]
      rfl
  | @braced body pieces _ _ ih =>
    obtain ⟨cuts, tail, hcuts, hpieces, hwhole⟩ := @ih (before ++ raw ++ (Piece.braced body).text) []
      (fun _ _ => rfl) (by rw [htext, List.flatMap_cons]; simp)
    have hstop : byteSize (before ++ raw) + byteSize (Piece.braced body).text =
        byteSize (before ++ raw ++ (Piece.braced body).text) := (byteSize_append _ _).symm
    rw [List.flatMap_cons, ← List.append_assoc] at htext
    have hbefore : slice? text (byteSize before) (byteSize (before ++ raw)) = some (.ofList raw) :=
      slice?_of_append (by rw [htext, List.append_assoc])
    have hall : slice? text (byteSize (before ++ raw))
        (byteSize (before ++ raw ++ (Piece.braced body).text)) =
          some (.ofList (Piece.braced body).text) := slice?_of_append htext
    have hbody : slice? text (byteSize (before ++ raw) + 1)
        (byteSize (before ++ raw ++ (Piece.braced body).text) - 1) = some (.ofList body) :=
      slice?_body htext
    rw [List.append_nil] at hcuts
    refine ⟨⟨.ofList raw, .ofList body, .ofList (Piece.braced body).text⟩ :: cuts, tail, ?_, ?_, ?_⟩
    · rw [boundsOf, hstop, cutsFrom?, hbefore, hbody, hall, hcuts]
      rfl
    · rw [List.flatMap_cons, List.append_assoc, hpieces, Cut.pieces, String.toList_ofList,
        String.toList_ofList, List.append_assoc]
      rfl
    · rw [List.forall_mem_cons, String.toList_ofList, String.toList_ofList]
      exact ⟨rfl, hwhole⟩

/-- **Scanning the bytes and slicing** gives the pieces of a text: the slices are in order, in range and not
inside a character. -/
theorem sliced_of_split? {text : String} (h : Piece.split? text.toList = some pieces) :
    Sliced text pieces := by
  obtain ⟨hgrammar, htext⟩ := Piece.split?_eq_some_iff.1 h
  obtain ⟨cuts, tail, hcuts, hpieces, hwhole⟩ :=
    @cutsFrom?_of_grammar [] [] pieces text hgrammar (fun _ _ => rfl) htext.symm
  refine ⟨boundsOf 0 pieces, cuts, tail, ?_, hcuts, hpieces, hwhole⟩
  rw [bounds?, ← htext, boundsFrom?_of_grammar hgrammar]

example : bounds? "/é/{ü:a{2}}" = some [(4, 13)] := by decide

end RequestRouter.Template
