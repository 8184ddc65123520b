import SchemaPress.Proofs.Json.Quoted
import SchemaPress.Proofs.Reference.Enclosing

/-!
# Canonical references

Every node of a document has a reference of its own: the tokens on the way down to it, each escaped
and then percent-encoded (`Pointer.canonical`). Reading it back undoes both, in the other order: the
octets of a percent-encoded character are those of its UTF-8 form, from which the character is read
(`Text.decodeLossy_utf8EncodeChar`), and what is left of a token is its inner escape. No piece of such
a reference has a slash or a number sign in it, so the pieces of the reference are those that it was
put together from.

The spelling of what is named agrees with the one that inlining comes to on its way down
(`Library.Descends`), which is what keeps circles apart from descents.
-/

namespace SchemaPress

/-! ### Characters in UTF-8 -/

namespace Text

/-- A character of several octets: the first one says how many follow, and all of them are there. -/
theorem decodeLossy_lead {a lead count low high code : Nat} {rest left : List Nat}
    (hlead : leadOctet? a = some (lead, count, low, high))
    (hrest : continuation count low high lead rest = (some code, left)) (ha : 0x80 ≤ a) :
    decodeLossy (a :: rest) = Char.ofNat code :: decodeLossy left := by
  rw [decodeLossy, if_neg (Nat.not_lt.2 ha), hlead]
  simp only
  split
  · next h =>
    obtain ⟨hcode, rfl⟩ := Prod.mk.inj (h.symm.trans hrest)
    rw [Option.some.inj hcode]
  · next h => exact absurd (h.symm.trans hrest) (by simp)

theorem continuation_cons {count low high code b : Nat} {rest : List Nat} (hlow : low ≤ b)
    (hhigh : b ≤ high) : continuation (count + 1) low high code (b :: rest) =
      continuation count 0x80 0xBF (code * 64 + b % 64) rest := by
  rw [continuation, if_pos ⟨hlow, hhigh⟩]

theorem continuation_zero (low high code : Nat) (rest : List Nat) :
    continuation 0 low high code rest = (some code, rest) := by
  cases rest <;> rfl

/-- The first octet of two. -/
theorem leadOctet?_two {n : Nat} (hlow : 0x7F < n) (hhigh : n ≤ 0x7FF) :
    leadOctet? (n / 64 % 32 + 192) = some (n / 64, 1, 0x80, 0xBF) := by
  unfold leadOctet?
  rw [if_pos (by omega), show n / 64 % 32 + 192 - 0xC0 = n / 64 by omega]

/-- The first octet of three, whose bounds the second one keeps. -/
theorem leadOctet?_three {n : Nat} (hlow : 0x7FF < n) (hhigh : n ≤ 0xFFFF)
    (hcode : n < 0xD800 ∨ 0xDFFF < n) :
    ∃ low high, leadOctet? (n / 4096 % 16 + 224) = some (n / 4096, 2, low, high) ∧
      low ≤ n / 64 % 64 + 128 ∧ n / 64 % 64 + 128 ≤ high := by
  unfold leadOctet?
  rw [if_neg (by omega)]
  by_cases hfirst : n / 4096 % 16 + 224 = 0xE0
  · rw [if_pos hfirst, show n / 4096 = 0 by omega]
    exact ⟨_, _, rfl, by omega, by omega⟩
  rw [if_neg hfirst]
  by_cases hsurrogates : n / 4096 % 16 + 224 = 0xED
  · rw [if_pos hsurrogates, show n / 4096 = 0xD by omega]
    exact ⟨_, _, rfl, by omega, by omega⟩
  · rw [if_neg hsurrogates, if_pos (by omega), show n / 4096 % 16 + 224 - 0xE0 = n / 4096 by omega]
    exact ⟨_, _, rfl, by omega, by omega⟩

/-- The first octet of four, whose bounds the second one keeps. -/
theorem leadOctet?_four {n : Nat} (hlow : 0xFFFF < n) (hhigh : n < 0x110000) :
    ∃ low high, leadOctet? (n / 262144 % 8 + 240) = some (n / 262144, 3, low, high) ∧
      low ≤ n / 4096 % 64 + 128 ∧ n / 4096 % 64 + 128 ≤ high := by
  unfold leadOctet?
  rw [if_neg (by omega), if_neg (by omega), if_neg (by omega), if_neg (by omega)]
  by_cases hfirst : n / 262144 % 8 + 240 = 0xF0
  · rw [if_pos hfirst, show n / 262144 = 0 by omega]
    exact ⟨_, _, rfl, by omega, by omega⟩
  rw [if_neg hfirst]
  by_cases hmiddle : n / 262144 % 8 + 240 ≤ 0xF3
  · rw [if_pos (by omega), show n / 262144 % 8 + 240 - 0xF0 = n / 262144 by omega]
    exact ⟨_, _, rfl, by omega, by omega⟩
  · rw [if_neg (by omega), if_pos (by omega), show n / 262144 = 4 by omega]
    exact ⟨_, _, rfl, by omega, by omega⟩

/-- **A character is read from its UTF-8 form**, whatever stands behind it. -/
theorem decodeLossy_utf8EncodeChar (c : Char) (rest : List Nat) :
    decodeLossy ((String.utf8EncodeChar c).map UInt8.toNat ++ rest) = c :: decodeLossy rest := by
  have hcode : c.val.toNat < 0xD800 ∨ 0xDFFF < c.val.toNat ∧ c.val.toNat < 0x110000 := c.valid
  have hread {code : Nat} (h : code = c.val.toNat) :
      Char.ofNat code :: decodeLossy rest = c :: decodeLossy rest := by
    rw [h]
    exact congrArg (· :: _) (Char.ofNat_toNat c)
  have hoctet {octet : Nat} (h : octet < 256) : (UInt8.ofNat octet).toNat = octet :=
    UInt8.toNat_ofNat_of_lt' h
  unfold String.utf8EncodeChar
  generalize c.val.toNat = n at *
  -- by the number of octets; in each case the shares of the code point add up to it again
  simp only
  split
  · rw [List.map_singleton, hoctet (by omega), List.singleton_append, decodeLossy,
      if_pos (by omega)]
    exact hread rfl
  split
  · simp only [List.map_cons, List.map_nil, List.cons_append, List.nil_append]
    rw [hoctet (by omega), hoctet (by omega)]
    have hlead := leadOctet?_two (n := n) (by omega) (by omega)
    refine (decodeLossy_lead hlead ?_ (by omega)).trans (hread rfl)
    rw [continuation_cons (by omega) (by omega), continuation_zero]
    congr 2
    omega
  split
  · simp only [List.map_cons, List.map_nil, List.cons_append, List.nil_append]
    rw [hoctet (by omega), hoctet (by omega), hoctet (by omega)]
    obtain ⟨low, high, hlead, hlow, hhigh⟩ :=
      leadOctet?_three (n := n) (by omega) (by omega) (by omega)
    refine (decodeLossy_lead hlead ?_ (by omega)).trans (hread rfl)
    rw [continuation_cons hlow hhigh,
      continuation_cons (by omega) (by omega), continuation_zero]
    congr 2
    omega
  · simp only [List.map_cons, List.map_nil, List.cons_append, List.nil_append]
    rw [hoctet (by omega), hoctet (by omega), hoctet (by omega), hoctet (by omega)]
    obtain ⟨low, high, hlead, hlow, hhigh⟩ := leadOctet?_four (n := n) (by omega) (by omega)
    refine (decodeLossy_lead hlead ?_ (by omega)).trans (hread rfl)
    rw [continuation_cons hlow hhigh,
      continuation_cons (by omega) (by omega), continuation_cons (by omega) (by omega),
      continuation_zero]
    congr 2
    omega

end Text

/-! ### Percent-encoded texts -/

namespace Pointer

/-- **Plain characters**, which a reference has as they are. -/
def isPlain (c : Char) : Bool :=
  c.isAlphanum || c == '.' || c == '_' || c == '~' || c == '-'

/-- An octet, percent-encoded. -/
def octetText (octet : Nat) : List Char :=
  ['%', (octet / 16).digitChar.toUpper, (octet % 16).digitChar.toUpper]

/-- A character, percent-encoded unless it is plain. -/
def percentEncodeChar (c : Char) : List Char :=
  if isPlain c then [c] else (String.utf8EncodeChar c).flatMap fun octet => octetText octet.toNat

/-- A text, percent-encoded. -/
def percentEncode (text : List Char) : List Char :=
  text.flatMap percentEncodeChar

theorem hexValue?_toUpper {digit : Nat} (h : digit < 16) :
    Text.hexValue? digit.digitChar.toUpper = some digit := by
  have all : ∀ digit : Fin 16, Text.hexValue? (Nat.digitChar digit).toUpper = some digit.val := by
    decide
  exact all ⟨digit, h⟩

theorem isPlain_toUpper {digit : Nat} (h : digit < 16) :
    isPlain digit.digitChar.toUpper = true := by
  have all : ∀ digit : Fin 16, isPlain (Nat.digitChar digit).toUpper = true := by decide
  exact all ⟨digit, h⟩

theorem toNat_lt_of_isPlain {c : Char} (h : isPlain c = true) : c.toNat < 0x80 := by
  unfold isPlain at h
  delta Char.isAlphanum Char.isAlpha Char.isUpper Char.isLower Char.isDigit at h
  simp only [Bool.or_eq_true, Bool.and_eq_true, decide_eq_true_eq, beq_iff_eq, ge_iff_le,
    UInt32.le_iff_toNat_le] at h
  change c.val.toNat < 0x80
  rcases h with (((((⟨-, h⟩ | ⟨-, h⟩) | ⟨-, h⟩) | rfl) | rfl) | rfl) | rfl
  -- letters and digits by their ranges
  · exact Nat.lt_of_le_of_lt h (by decide)
  · exact Nat.lt_of_le_of_lt h (by decide)
  · exact Nat.lt_of_le_of_lt h (by decide)
  all_goals decide

/-- What a percent-encoded text is made of. -/
theorem mem_percentEncode {text : List Char} {c : Char} (h : c ∈ percentEncode text) :
    isPlain c = true ∨ c = '%' := by
  obtain ⟨d, -, hc⟩ := List.mem_flatMap.1 h
  unfold percentEncodeChar at hc
  split at hc
  · next hplain =>
    obtain rfl := List.mem_singleton.1 hc
    exact .inl hplain
  · obtain ⟨octet, -, hc⟩ := List.mem_flatMap.1 hc
    have hoctet := octet.toNat_lt
    simp only [octetText, List.mem_cons, List.not_mem_nil, or_false] at hc
    rcases hc with rfl | rfl | rfl
    · exact .inr rfl
    · exact .inl (isPlain_toUpper (by omega))
    · exact .inl (isPlain_toUpper (by omega))

/-- Neither slashes nor number signs are among it. -/
theorem not_mem_percentEncode (text : List Char) {c : Char} (hplain : isPlain c = false)
    (hpercent : c ≠ '%') : c ∉ percentEncode text := by
  intro hmem
  rcases mem_percentEncode hmem with h | h
  · rw [h] at hplain
    cases hplain
  · exact hpercent h

theorem percentOctets_octetText {octet : Nat} (h : octet < 256) (rest : List Char) :
    percentOctets (octetText octet ++ rest) = octet :: percentOctets rest := by
  have hvalue : octet / 16 * 16 + octet % 16 = octet := by omega
  unfold octetText
  simp only [List.cons_append, List.nil_append, percentOctets,
    hexValue?_toUpper (show octet / 16 < 16 by omega),
    hexValue?_toUpper (show octet % 16 < 16 by omega), hvalue]

theorem percentOctets_plain {c : Char} (h : isPlain c = true) (rest : List Char) :
    percentOctets (c :: rest) = c.toNat :: percentOctets rest := by
  rw [percentOctets]
  rintro a b others rfl rfl
  exact absurd h (by decide)

/-- **The octets of a character** that is percent-encoded are those of its UTF-8 form. -/
theorem percentOctets_percentEncodeChar (c : Char) (rest : List Char) :
    percentOctets (percentEncodeChar c ++ rest) =
      (String.utf8EncodeChar c).map UInt8.toNat ++ percentOctets rest := by
  unfold percentEncodeChar
  split
  · next hplain =>
    have hcode := toNat_lt_of_isPlain hplain
    have hval : c.val ≤ 127 := UInt32.le_iff_toNat_le.2 (Nat.le_of_lt_succ hcode)
    have hoctet : c.val.toUInt8.toNat = c.toNat := by
      rw [UInt32.toNat_toUInt8]
      exact Nat.mod_eq_of_lt (Nat.lt_trans hcode (by decide))
    rw [String.utf8EncodeChar_eq_singleton (Char.utf8Size_eq_one_iff.2 hval), List.map_singleton,
      hoctet]
    exact percentOctets_plain hplain rest
  · induction String.utf8EncodeChar c with
    | nil => rfl
    | cons octet octets ih =>
      rw [List.flatMap_cons, List.append_assoc, percentOctets_octetText octet.toNat_lt, ih]
      rfl

theorem decodeLossy_percentOctets (text : List Char) :
    Text.decodeLossy (percentOctets (percentEncode text)) = text := by
  induction text with
  | nil => simp [percentEncode, percentOctets, Text.decodeLossy]
  | cons c rest ih =>
    rw [percentEncode, List.flatMap_cons, percentOctets_percentEncodeChar,
      Text.decodeLossy_utf8EncodeChar]
    exact congrArg _ ih

/-- A text of ASCII characters is one run of them. -/
theorem asciiRuns_of_ascii {text : List Char} (h : ∀ c ∈ text, c.toNat < 0x80) :
    asciiRuns text = [([], text)] := by
  induction text with
  | nil => rfl
  | cons c rest ih =>
    rw [asciiRuns, ih fun d hd => h d (List.mem_cons_of_mem _ hd)]
    simp [h c List.mem_cons_self]

/-- **What is percent-encoded is decoded again.** -/
theorem percentDecode_percentEncode (text : List Char) :
    percentDecode (percentEncode text) = text := by
  have hascii : ∀ c ∈ percentEncode text, c.toNat < 0x80 := by
    intro c hc
    rcases mem_percentEncode hc with hplain | rfl
    · exact toNat_lt_of_isPlain hplain
    · decide
  unfold percentDecode
  rw [asciiRuns_of_ascii hascii, List.flatMap_singleton]
  exact decodeLossy_percentOctets text

/-! ### Canonical references -/

/-- A token as references have it: with the inner escape, and then percent-encoded. -/
def encode (token : String) : List Char :=
  percentEncode (escape token).toList

/-- **The canonical reference** of the node at a path of a document. -/
def canonical (path : List Key) : String :=
  String.ofList ('#' :: path.flatMap fun key => '/' :: encode key.token)

theorem tokenOf_encode (token : String) : tokenOf (encode token) = token := by
  unfold tokenOf encode escape
  rw [percentDecode_percentEncode, String.toList_ofList, unescape_escape, String.ofList_toList]

theorem slash_not_mem_encode (token : String) : '/' ∉ encode token :=
  not_mem_percentEncode _ (by decide) (by decide)

theorem eq_empty_of_encode {token : String} (h : encode token = []) : token = "" := by
  have htoken := tokenOf_encode token
  rw [h] at htoken
  exact htoken.symm.trans (tokenOf_encode "")

theorem pieces_encode (key : Key) (rest : List Key) :
    Text.pieces '/' (encode key.token ++ rest.flatMap fun key => '/' :: encode key.token) =
      (key :: rest).map fun key => encode key.token := by
  induction rest generalizing key with
  | nil =>
    rw [List.flatMap_nil, List.append_nil, Text.pieces_of_not_mem (slash_not_mem_encode _)]
    rfl
  | cons next rest ih =>
    rw [List.flatMap_cons, List.cons_append, Text.pieces_append (slash_not_mem_encode _), ih]
    rfl

/-- **The tokens of a canonical reference** are those of the path. The lone slash stands for the whole
document, so there is no such reference to a member without a name at the top. -/
theorem ofFragment?_canonical {path : List Key} (hlone : path ≠ [.name ""]) :
    ofFragment? (path.flatMap fun key => '/' :: encode key.token) = some (path.map Key.token) := by
  cases path with
  | nil => rfl
  | cons key rest =>
    rw [List.flatMap_cons, List.cons_append, ofFragment?, pieces_encode, List.map_map]
    · refine congrArg some (List.map_congr_left fun key _ => ?_)
      exact tokenOf_encode key.token
    · intro hempty
      obtain ⟨htoken, hrest⟩ := List.append_eq_nil_iff.1 hempty
      have hname : key.token = "" := eq_empty_of_encode htoken
      refine hlone ?_
      cases rest with
      | cons => exact absurd hrest (by simp)
      | nil =>
        cases key with
        | name text => exact congrArg (fun text => [Key.name text]) hname
        | index number =>
          have hdigits : Nat.toDigits 10 number = [] := by
            rw [← toList_toString]
            exact congrArg String.toList hname
          exact absurd hdigits Nat.toDigits_ne_nil

theorem cutAt_canonical (path : List Key) :
    Text.cutAt '#' (canonical path).toList =
      ([], some (path.flatMap fun key => '/' :: encode key.token)) := by
  unfold canonical
  rw [String.toList_ofList, Text.cutAt, if_pos rfl]

theorem text_cons (token : String) (tokens : List String) :
    text (token :: tokens) = "/" ++ escape token ++ text tokens := by
  unfold text
  rw [List.map_cons, String.join_cons]

end Pointer

/-! ### Descents -/

namespace Site

/-- **A step down** goes to an item of an array or to a member of an object. -/
inductive Down : Site → Key → Site → Prop where
  | item {site : Site} {items : List Json} {index : Nat} {value : Json}
      (hnode : site.node = .arr items) (hitem : items[index]? = some value) :
      Down site (.index index) (site.item index value)
  | member {site : Site} {members : Members} {name : String} {value : Json}
      (hnode : site.node = .obj members) (hmember : members.get? name = some value) :
      Down site (.name name) (site.member name value)

/-- **Descents** take one step for each key of a path. -/
inductive Descends : Site → List Key → Site → Prop where
  | here {site : Site} : Descends site [] site
  | down {site next last : Site} {key : Key} {path : List Key} (first : Down site key next)
      (rest : Descends next path last) : Descends site (key :: path) last

variable {site next last : Site} {key : Key} {path : List Key}

/-- A step puts the token of its key behind the spelling. -/
theorem Down.pointer (h : Down site key next) : next.document = site.document ∧
    next.pointer = site.pointer ++ "/" ++ Pointer.escape key.token := by
  cases h with
  | @item _ index _ =>
    refine ⟨rfl, ?_⟩
    rw [show Pointer.escape (Key.token (.index index)) = toString index from
      Pointer.escape_toString index]
    rfl
  | member => exact ⟨rfl, rfl⟩

theorem Down.at? (h : Down site key next) : site.node.at? [key] = some next.node := by
  cases h with
  | item hnode hitem =>
    rw [hnode, Json.at?_index, hitem]
    rfl
  | member hnode hmember =>
    rw [hnode, Json.at?_name, hmember]
    rfl

/-- Where there is something under a key, there is a step to it. -/
theorem exists_down {node : Json} (h : site.node.at? [key] = some node) :
    ∃ next, Down site key next ∧ next.node = node := by
  cases key with
  | index number =>
    cases hnode : site.node with
    | arr items =>
      rw [hnode, Json.at?_index] at h
      exact ⟨_, .item hnode h, rfl⟩
    | _ =>
      rw [hnode] at h
      cases h
  | name text =>
    cases hnode : site.node with
    | obj members =>
      rw [hnode, Json.at?_name] at h
      exact ⟨_, .member hnode h, rfl⟩
    | _ =>
      rw [hnode] at h
      cases h

/-- **A descent puts the tokens of its path behind the spelling**, and ends at the node there. -/
theorem Descends.spelled (h : Descends site path last) :
    last.document = site.document ∧
    last.pointer = site.pointer ++ Pointer.text (path.map Key.token) ∧
    site.node.at? path = some last.node := by
  induction h with
  | here => exact ⟨rfl, String.append_empty.symm, rfl⟩
  | down first rest ih =>
    obtain ⟨hdocument, hpointer⟩ := first.pointer
    refine ⟨ih.1.trans hdocument, ?_, ?_⟩
    · rw [ih.2.1, hpointer, List.map_cons, Pointer.text_cons]
      simp only [String.append_assoc]
    · rw [Json.at?_cons, first.at?]
      exact ih.2.2

theorem exists_descends {node : Json} (h : site.node.at? path = some node) :
    ∃ last, Descends site path last := by
  induction path generalizing site with
  | nil => exact ⟨site, .here⟩
  | cons key rest ih =>
    rw [Json.at?_cons] at h
    obtain ⟨inner, hinner, hrest⟩ := Option.bind_eq_some_iff.1 h
    obtain ⟨next, hdown, rfl⟩ := exists_down hinner
    obtain ⟨last, hlast⟩ := ih hrest
    exact ⟨last, .down hdown hlast⟩

end Site

namespace Library

variable {library : Library}

/-- **Descents of the inlining**: visits, each made from the one in front of it by a step down. -/
inductive Descends (library : Library) : Visit → List Key → Visit → Prop where
  | here {visit : Visit} : Descends library visit [] visit
  | down {visit next last : Visit} {key : Key} {path : List Key}
      (henter : Enters library visit next) (first : visit.site.Down key next.site)
      (rest : Descends library next path last) : Descends library visit (key :: path) last

theorem Descends.sites {visit last : Visit} {path : List Key}
    (h : Descends library visit path last) : visit.site.Descends path last.site := by
  induction h with
  | here => exact .here
  | down _ first _ ih => exact .down first ih

/-- **Canonical references address every node.** Take a node of a document, at any path but that of
the single empty name. Its canonical reference, written anywhere in the document, is split into the
tokens of the path, and what is looked up by them is the node. A descent from the top of the document
along the path comes to the site that the reference names, with the same spelling; so does every
descent of the inlining. -/
theorem canonical_addresses {document : String} {value node : Json} {path : List Key}
    (hload : library.load document (Pointer.canonical path) = .ok value)
    (hnode : value.at? path = some node) (hlone : path ≠ [.name ""]) :
    library.target document (Pointer.canonical path) = .ok ⟨document, path.map Key.token⟩ ∧
    library.lookup ⟨document, path.map Key.token⟩ (Pointer.canonical path) = .ok node ∧
    Site.Descends ⟨document, "", value⟩ path (Target.site ⟨document, path.map Key.token⟩ node) ∧
    ∀ top last : Visit, top.site = ⟨document, "", value⟩ → Descends library top path last →
      last.site = Target.site ⟨document, path.map Key.token⟩ node := by
  have hspelled {last : Site} (h : Site.Descends ⟨document, "", value⟩ path last) :
      last = Target.site ⟨document, path.map Key.token⟩ node := by
    obtain ⟨hdocument, hpointer, hlast⟩ := h.spelled
    obtain ⟨_, _, _⟩ := last
    obtain rfl := Option.some.inj (hlast.symm.trans hnode)
    rw [String.empty_append] at hpointer
    subst hdocument hpointer
    rfl
  refine ⟨?_, ?_, ?_, fun top last htop h => ?_⟩
  · unfold target
    rw [Pointer.cutAt_canonical]
    simp only [isRemote, Option.getD_some, Pointer.ofFragment?_canonical hlone, List.isEmpty_nil,
      Bool.false_eq_true, if_false, if_true]
    rfl
  · unfold lookup
    rw [hload]
    exact steps_of_locates (Json.locates_of_at? hnode) _
  · obtain ⟨last, hlast⟩ := @Site.exists_descends ⟨document, "", value⟩ _ _ hnode
    exact hspelled hlast ▸ hlast
  · exact hspelled (htop ▸ h.sites)

/-- `{"~1%25/#é": [0, {"": "x"}]}`, whose names have the marks of both escapes in them. -/
def awkward : Library where
  root := .obj [("~1%25/#é", .arr [.int 0, .obj [("", .str "x")]])]
  base := none
  tree := .empty

/-- The way to the text in it. -/
def awkwardPath : List Key :=
  [.name "~1%25/#é", .index 1, .name ""]

/-- The site of its array. -/
def awkwardItems : Site :=
  awkward.rootSite.member "~1%25/#é" (.arr [.int 0, .obj [("", .str "x")]])

theorem canonical_addresses_awkward :
    Pointer.canonical awkwardPath = "#/~01%2525~1%23%C3%A9/1/" ∧
    awkward.target "" (Pointer.canonical awkwardPath) = .ok ⟨"", ["~1%25/#é", "1", ""]⟩ ∧
    awkward.lookup ⟨"", ["~1%25/#é", "1", ""]⟩ (Pointer.canonical awkwardPath) = .ok (.str "x") ∧
    ∃ last, Descends awkward awkward.rootVisit awkwardPath last ∧
      last.site = ⟨"", "/~01%25~1#é/1/", .str "x"⟩ := by
  obtain ⟨htarget, hlookup, -, hvisits⟩ :=
    @canonical_addresses awkward "" awkward.root (.str "x") awkwardPath rfl rfl (by decide)
  have items : Enters awkward awkward.rootVisit ⟨[awkward.rootSite.key], awkwardItems⟩ :=
    @Enters.member awkward [] awkward.rootSite [] [] _ _ _ rfl rfl .noMember
  have item : Enters awkward ⟨[awkward.rootSite.key], awkwardItems⟩
      ⟨[awkward.rootSite.key], awkwardItems.item 1 (.obj [("", .str "x")])⟩ :=
    @Enters.item awkward _ awkwardItems [.int 0] [] _ _ rfl (.item (.leaf nofun nofun) .noItem)
  have text := @Enters.member awkward [awkward.rootSite.key]
    (awkwardItems.item 1 (.obj [("", .str "x")])) [] [] _ _ _ rfl rfl .noMember
  have hdescends := Descends.down items (.member rfl rfl)
    (.down item (.item rfl rfl) (.down text (.member rfl rfl) .here))
  refine ⟨by decide +kernel, htarget, hlookup, _, hdescends, ?_⟩
  rw [hvisits _ _ rfl hdescends]
  exact congrArg (fun pointer => Site.mk "" pointer (.str "x")) (by decide +kernel)

end Library

end SchemaPress
