import FilterQuery.Proofs.Tree
import FilterQuery.Proofs.WellFormed
import FilterQuery.Settings.Load

/-!
# Declared filters and named filters

Identifiers are judged twice: by the settings, which refuse to declare some of them, and
by the reader of queries, which collects the letters of a name until one of them ends it.
The two agree (`nameable_iff_mentioned`). What the settings refuse no query can name,
whatever is registered, since only letters are ever collected; and for everything they
accept there are queries that name it, as a filter and, where it yields a number, as an
operand.
-/

namespace FilterQuery

open Grammar

/-! ## What may be declared -/

theorem FilterSet.get?_insertMany_ne_none_iff {set : FilterSet} {filters : List Filter}
    {identifier : String} :
    (set.insertMany filters).get? identifier ≠ none ↔
      set.get? identifier ≠ none ∨ ∃ f ∈ filters, f.identifier = identifier := by
  induction filters generalizing set with
  | nil => simp [insertMany]
  | cons f filters ih =>
    have hrest := @ih (set.insert f)
    rw [get?_insert] at hrest
    rw [insertMany, List.foldl_cons, ← insertMany, hrest]
    by_cases hf : f.identifier = identifier
    · simp [hf]
    · simp [hf]

theorem decodeText_toByteArray (text : String) : decodeText text.toByteArray = .ok text := by
  rw [decodeText, String.fromUTF8?, dif_pos text.isValidUTF8]
  rfl

namespace Settings

variable {settings accepted : Settings} {identifier : String}

theorem isNameable_iff :
    isNameable identifier ↔ identifier ≠ "" ∧ ∀ c ∈ identifier.toList, isIdentifierChar c := by
  simp [isNameable]

theorem accept_eq_ok_iff :
    settings.accept = .ok accepted ↔
      settings.version ≤ currentVersion ∧
        (∀ f ∈ settings.filters, isNameable f.identifier) ∧
        accepted = { settings with version := currentVersion } := by
  unfold accept
  by_cases hversion : settings.version > currentVersion
  · simp [hversion, Nat.not_le.mpr hversion]
  rw [if_neg hversion]
  cases hfind : settings.filters.find? fun f => !isNameable f.identifier with
  | some f =>
    obtain ⟨hbad, hmem⟩ : isNameable f.identifier = false ∧ f ∈ settings.filters := by
      have := List.find?_some hfind
      exact ⟨by simpa using this, List.mem_of_find?_eq_some hfind⟩
    simp only [reduceCtorEq, false_iff, not_and]
    intro _ hall
    rw [hall f hmem] at hbad
    cases hbad
  | none =>
    rw [List.find?_eq_none] at hfind
    simp only [Except.ok.injEq]
    constructor
    · rintro rfl
      exact ⟨Nat.not_lt.mp hversion, fun f hf => by simpa using hfind f hf, rfl⟩
    · rintro ⟨-, -, rfl⟩
      rfl

/-- What is loaded has been accepted. -/
theorem exists_accept_of_load {fs : FileSystem} {path : Path}
    (h : load fs path = .ok accepted) : ∃ settings : Settings, settings.accept = .ok accepted := by
  unfold load at h
  split at h
  · split at h
    next text _ =>
      unfold ofText at h
      split at h
      next settings _ => exact ⟨settings, h⟩
      next => cases h
    next => cases h
  · cases h
    exact ⟨default, rfl⟩

/-- Settings in a file are what its text says. -/
theorem load_of_get {fs : FileSystem} {path : Path} {text : String}
    (h : fs.get path = .ok (.file text.toUTF8)) : load fs path = ofText text := by
  simp [load, FileSystem.contains, FileSystem.readText, h, decodeText_toByteArray, bind,
    Except.bind, Except.isOk, Except.toBool]

theorem exists_lookup_of_declared {f : Filter} (hf : f ∈ settings.filters) :
    ∃ kind, settings.known.registry.lookup f.identifier = some kind := by
  have hget : settings.known.get? f.identifier ≠ none :=
    FilterSet.get?_insertMany_ne_none_iff.mpr (.inr ⟨f, hf, rfl⟩)
  obtain ⟨g, hg⟩ := Option.ne_none_iff_exists'.mp hget
  exact ⟨g.kind, by simp [FilterSet.registry, hg]⟩

end Settings

/-! ## Queries that name a filter -/

variable {registry : Registry} {identifier : String}

namespace Grammar

/-- A comparison with an argument of one letter, without anything between its parts. -/
def Clause.brief (k : Comparison) (c : Char) (hc : bare [c]) : Clause where
  blanks := []
  comparison := k
  gap := []
  inner := [c]
  skipped := []
  blanks_blank := blanks_nil
  gap_ends_symbol := by simp
  gap_bare := rfl
  inner_bare := hc
  skipped_search := by simp

/-- An operand without blanks that names a filter. -/
def Term.ofName (c : Char) (t : List Char) (h : ∀ a ∈ c :: t, isIdentifierChar a) : Term where
  head := c
  tail := t
  value := .filter (String.ofList (c :: t))
  head_counts := Scan.isIdentifierChar_counts c (h c (by simp))
  spells := by
    rw [OperandValue.text, String.toList_ofList, List.filter_eq_self]
    intro a ha
    simpa using Scan.isIdentifierChar_counts a (h a ha)
  uniform := by
    rw [Uniform, String.toList_ofList]
    exact h

end Grammar

theorem compile_filter_of_lookup {kind : Kind}
    (hletters : ∀ c ∈ identifier.toList, isIdentifierChar c)
    (hlookup : registry.lookup identifier = some kind) :
    compile registry ("\x7b" ++ identifier ++ ":\"x\"\x7d") =
      ⟨.ok (some ⟨[.filter ⟨identifier, kind, .includes, "x", none⟩]⟩), []⟩ := by
  let body : Body := .filter ⟨identifier, hletters⟩ kind (.brief .includes 'x' rfl) .done
  refine compile_of_derives
    ⟨⟨[], ⟨'\x7b', rfl⟩, body, ⟨'\x7d', rfl⟩, [], blanks_nil⟩, ⟨?_, ?_⟩, ?_, rfl, rfl⟩
  · exact ⟨nofun, hlookup, fun _ => rfl, trivial, trivial⟩
  · show 0 + 1 ≤ 128
    omega
  · simp [Root.text, body, Body.text, Clause.text, Clause.front, Clause.brief, Comparison.symbol]

theorem compile_operand_of_lookup (hne : identifier ≠ "")
    (hletters : ∀ c ∈ identifier.toList, isIdentifierChar c)
    (hlookup : registry.lookup identifier = some .numerical) :
    compile registry ("\x7b#(" ++ identifier ++ ")==\"1\"\x7d") =
      ⟨.ok (some ⟨[.calculator ⟨0, [⟨.filter identifier, none⟩], .equal, "1", none⟩]⟩), []⟩ := by
  obtain ⟨c, t, hsplit⟩ := List.exists_cons_of_ne_nil (mt String.toList_eq_nil_iff.mp hne)
  obtain rfl : identifier = String.ofList (c :: t) := by rw [← hsplit, String.ofList_toList]
  rw [String.toList_ofList] at hletters
  let body : Body := .calculator ⟨'(', rfl⟩ (.last (.ofName c t hletters) ⟨')', rfl⟩)
    (.brief .equal '1' rfl) .done
  refine compile_of_derives
    ⟨⟨[], ⟨'\x7b', rfl⟩, body, ⟨'\x7d', rfl⟩, [], blanks_nil⟩, ⟨?_, ?_⟩, ?_, rfl, rfl⟩
  · exact ⟨nofun, hlookup, trivial, trivial⟩
  · show 0 + 1 ≤ 128
    omega
  · simp [Root.text, body, Body.text, Sum.text, Term.text, Term.ofName, Clause.text, Clause.front,
      Clause.brief, Comparison.symbol]

/-! ## The names in a query -/

/-- A filter names itself, and a calculator the filters among its operands. -/
def Node.Names (identifier : String) : Node → Prop
  | .filter reference => reference.identifier = identifier
  | .calculator sum => ∃ o ∈ sum.operands, o.value = .filter identifier
  | .cluster _ _ _ _ => False

/-- A filter or calculator somewhere in the query names the filter. -/
def Query.Mentions (q : Query) (identifier : String) : Prop :=
  ∃ leaf ∈ leavesOf q.nodes, leaf.Names identifier

mutual

theorem Node.WellFormed.leaves {node : Node} (h : node.WellFormed registry) :
    ∀ leaf ∈ node.leaves, leaf.WellFormed registry := by
  match node with
  | .filter reference =>
    intro leaf hleaf
    rwa [List.mem_singleton.mp hleaf]
  | .calculator sum =>
    intro leaf hleaf
    rwa [List.mem_singleton.mp hleaf]
  | .cluster id parent children connector =>
    cases h with
    | cluster _ _ _ _ _ hchildren => exact wellFormed_leavesOf hchildren

theorem wellFormed_leavesOf {nodes : List Node} (h : ∀ node ∈ nodes, node.WellFormed registry) :
    ∀ leaf ∈ leavesOf nodes, leaf.WellFormed registry := by
  match nodes with
  | [] => exact nofun
  | node :: nodes =>
    intro leaf hleaf
    rcases List.mem_append.mp hleaf with hleaf | hleaf
    · exact (h node (by simp)).leaves leaf hleaf
    · exact wellFormed_leavesOf (fun n hn => h n (by simp [hn])) leaf hleaf

end

theorem Node.WellFormed.letters {leaf : Node} (h : leaf.WellFormed registry)
    (hnames : leaf.Names identifier) : ∀ c ∈ identifier.toList, isIdentifierChar c := by
  cases h with
  | filter reference letters _ =>
    obtain rfl : reference.identifier = identifier := hnames
    exact letters
  | calculator sum wellFormed =>
    obtain ⟨o, ho, hvalue⟩ := hnames
    have hoperand := wellFormed.values o ho
    rw [hvalue] at hoperand
    exact hoperand.2.1
  | cluster => exact hnames.elim

/-- Only letters are collected, whatever the text and the registry. -/
theorem letters_of_mentions {source : String} {q : Query} {ds : List Diagnostic}
    (h : compile registry source = ⟨.ok (some q), ds⟩) (hq : q.Mentions identifier) :
    ∀ c ∈ identifier.toList, isIdentifierChar c := by
  obtain ⟨root, ⟨hvalid, -⟩, -, rfl, -⟩ := derives_of_compile h
  obtain ⟨leaf, hleaf, hnames⟩ := hq
  exact (wellFormed_leavesOf (Body.wellFormed_nodes hvalid) leaf hleaf).letters hnames

/-! ## The two judgements agree -/

/-- If no other declaration is at fault, settings are accepted exactly if the letters of the
identifier in question are those of a name. -/
theorem Settings.exists_accept_iff {settings : Settings} {f : Filter}
    (hf : f ∈ settings.filters) (hne : f.identifier ≠ "") (hversion : settings.version ≤ 1)
    (hothers : ∀ g ∈ settings.filters, g.identifier ≠ f.identifier → isNameable g.identifier) :
    (∃ accepted, settings.accept = .ok accepted) ↔
      ∀ c ∈ f.identifier.toList, isIdentifierChar c := by
  constructor
  · rintro ⟨accepted, haccepted⟩
    obtain ⟨-, hall, -⟩ := accept_eq_ok_iff.mp haccepted
    exact (isNameable_iff.mp (hall f hf)).2
  · intro hletters
    refine ⟨_, accept_eq_ok_iff.mpr ⟨hversion, fun g hg => ?_, rfl⟩⟩
    by_cases hsame : g.identifier = f.identifier
    · rw [hsame]
      exact isNameable_iff.mpr ⟨hne, hletters⟩
    · exact hothers g hg hsame

/-- The settings accept a declaration exactly if some query names it, under whatever registry
that holds it. And what has been loaded is named, under its own registry, by a query for a
filter and, where it is a number, by one for an operand. -/
theorem nameable_iff_mentioned :
    (∀ (settings : Settings) (f : Filter), f ∈ settings.filters → f.identifier ≠ "" →
      settings.version ≤ 1 →
      (∀ g ∈ settings.filters, g.identifier ≠ f.identifier → Settings.isNameable g.identifier) →
      ∀ (registry : Registry) (kind : Kind), registry.lookup f.identifier = some kind →
        ((∃ accepted, settings.accept = .ok accepted) ↔
          ∃ source q ds, compile registry source = ⟨.ok (some q), ds⟩ ∧
            q.Mentions f.identifier)) ∧
    (∀ settings accepted : Settings, settings.accept = .ok accepted → accepted.version = 1) ∧
    (∀ (fs : FileSystem) (path : Path) (settings : Settings),
      Settings.load fs path = .ok settings → settings.version = 1 ∧
      ∀ f ∈ settings.filters, ∃ kind,
        settings.known.registry.lookup f.identifier = some kind ∧
        compile settings.known.registry ("\x7b" ++ f.identifier ++ ":\"x\"\x7d") =
          ⟨.ok (some ⟨[.filter ⟨f.identifier, kind, .includes, "x", none⟩]⟩), []⟩ ∧
        (kind = .numerical →
          compile settings.known.registry ("\x7b#(" ++ f.identifier ++ ")==\"1\"\x7d") =
            ⟨.ok (some ⟨[.calculator
              ⟨0, [⟨.filter f.identifier, none⟩], .equal, "1", none⟩]⟩), []⟩)) := by
  refine ⟨fun settings f hf hne hversion hothers registry kind hlookup => ?_, ?_, ?_⟩
  · rw [Settings.exists_accept_iff hf hne hversion hothers]
    constructor
    · intro hletters
      refine ⟨_, _, _, compile_filter_of_lookup hletters hlookup, ?_⟩
      exact ⟨_, List.mem_singleton.mpr rfl, rfl⟩
    · rintro ⟨source, q, ds, hcompile, hmentions⟩
      exact letters_of_mentions hcompile hmentions
  · intro settings accepted h
    obtain ⟨-, -, rfl⟩ := Settings.accept_eq_ok_iff.mp h
    rfl
  · intro fs path settings h
    obtain ⟨written, haccept⟩ := Settings.exists_accept_of_load h
    obtain ⟨-, hall, rfl⟩ := Settings.accept_eq_ok_iff.mp haccept
    refine ⟨rfl, fun f hf => ?_⟩
    obtain ⟨hne, hletters⟩ := Settings.isNameable_iff.mp (hall f hf)
    obtain ⟨kind, hlookup⟩ := Settings.exists_lookup_of_declared hf
    refine ⟨kind, hlookup, compile_filter_of_lookup hletters hlookup, ?_⟩
    rintro rfl
    exact compile_operand_of_lookup hne hletters hlookup

/-- A loaded number may stand in a calculator; a name with a hyphen is refused, so no query
mentions it even where it is registered. -/
theorem likes_mentioned_and_hyphen_refused :
    (∃ settings, Settings.load ⟨[(["c"],
        .file "[[filters]]\nid = \"likes\"\nkind = \"numerical\"".toUTF8)], []⟩ ⟨"c"⟩ =
          .ok settings ∧ settings.version = 1 ∧
        compile settings.known.registry "\x7b#(likes)==\"1\"\x7d" =
          ⟨.ok (some ⟨[.calculator ⟨0, [⟨.filter "likes", none⟩], .equal, "1", none⟩]⟩), []⟩) ∧
    ¬∃ source q ds, compile ⟨fun _ => some .text, []⟩ source = ⟨.ok (some q), ds⟩ ∧
      q.Mentions "a-b" := by
  constructor
  · have htext : Settings.ofText "[[filters]]\nid = \"likes\"\nkind = \"numerical\"" =
        .ok ⟨1, none, [⟨"likes", .numerical⟩]⟩ := by cbv
    have hget (content : ByteArray) :
        FileSystem.get ⟨[(["c"], .file content)], []⟩ ⟨"c"⟩ = .ok (.file content) := rfl
    have hload : Settings.load ⟨[(["c"],
        .file "[[filters]]\nid = \"likes\"\nkind = \"numerical\"".toUTF8)], []⟩ ⟨"c"⟩ =
          .ok ⟨1, none, [⟨"likes", .numerical⟩]⟩ := by
      simp [Settings.load, FileSystem.contains, FileSystem.readText, hget, decodeText_toByteArray,
        htext, bind, Except.bind, Except.isOk, Except.toBool]
    have hlookup : (Settings.known ⟨1, none, [⟨"likes", .numerical⟩]⟩).registry.lookup "likes" =
        some .numerical := by decide
    obtain ⟨hversion, hfilters⟩ := nameable_iff_mentioned.2.2 _ _ _ hload
    obtain ⟨kind, hkind, -, hoperand⟩ := hfilters ⟨"likes", .numerical⟩ (by simp)
    obtain rfl : kind = .numerical := Option.some.inj (hkind.symm.trans hlookup)
    exact ⟨_, hload, hversion, hoperand rfl⟩
  · rw [← nameable_iff_mentioned.1 ⟨1, none, [⟨"a-b", .text⟩]⟩ ⟨"a-b", .text⟩ (by simp)
      (by decide) (by decide) (by simp) ⟨fun _ => some .text, []⟩ .text rfl]
    rintro ⟨accepted, h⟩
    cases h

end FilterQuery
