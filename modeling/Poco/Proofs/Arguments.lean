import Mathlib.Data.List.Basic
import Poco.Cli.Options

namespace Poco.Cli

/-! Arguments read from left to right as items.  They are accepted when all of them
belong to items and at most one item names an input, and then they mean what
their items say, whatever the order, but that the last configuration counts.
Else the first item that cannot be read, or names a second input, decides the
error. -/

/-- What the arguments of a command line say. -/
inductive Item where
  | help
  | json
  | halt
  | config (path : String)
  | input (path : String)
  deriving DecidableEq

namespace Item

/-- The arguments that an item is written as.  Any argument can follow `--config`. -/
inductive Written : Item → List String → Prop
  | longHelp : Written .help ["--help"]
  | shortHelp : Written .help ["-h"]
  | json : Written .json ["--json"]
  | halt : Written .halt ["--halt"]
  | config (path : String) : Written (.config path) ["--config", path]
  | input {path : String} (other : path ≠ "-h") (plain : ¬ ['-', '-'] <+: path.toList) :
      Written (.input path) [path]

def config? : Item → Option String
  | .config path => some path
  | _ => none

def input? : Item → Option String
  | .input path => some path
  | _ => none

end Item

/-- The arguments read as these items, one after the other. -/
inductive Reads : List String → List Item → Prop
  | nil : Reads [] []
  | cons {item : Item} {words arguments : List String} {items : List Item}
      (written : item.Written words) (rest : Reads arguments items) :
      Reads (words ++ arguments) (item :: items)

def configs (items : List Item) : List String :=
  items.filterMap Item.config?

def inputs (items : List Item) : List String :=
  items.filterMap Item.input?

theorem inputs_append (items others : List Item) :
    inputs (items ++ others) = inputs items ++ inputs others :=
  List.filterMap_append

theorem inputs_cons (item : Item) (items : List Item) :
    inputs (item :: items) = inputs [item] ++ inputs items :=
  inputs_append [item] items

theorem inputs_perm {items others : List Item} (permuted : items.Perm others) :
    (inputs items).Perm (inputs others) :=
  permuted.filterMap Item.input?

/-- The options that items stand for. -/
structure Options.Means (options : Options) (items : List Item) : Prop where
  help : options.help = true ↔ .help ∈ items
  json : options.json = true ↔ .json ∈ items
  halt : options.halt = true ↔ .halt ∈ items
  input : options.input.toList = inputs items
  config : options.config = (configs items).getLast?

/-- The options with a name of their own. -/
def knownOptions : List String :=
  ["--help", "--json", "--halt", "--config"]

/-- The item that begins `rest` is out of place behind `items`. -/
inductive Offends (items : List Item) : List String → UsageError → Prop
  | missingPath : Offends items ["--config"] .missingConfigPath
  | unknown {argument : String} {rest : List String} (dashed : ['-', '-'] <+: argument.toList)
      (unlisted : argument ∉ knownOptions) :
      Offends items (argument :: rest) (.unknownOption argument)
  | second {path : String} {rest : List String} (written : (Item.input path).Written [path])
      (given : inputs items ≠ []) : Offends items (path :: rest) .secondInput

/-- The leftmost item that is out of place gives the error: what stands before
it reads as items with at most one input. -/
def Breaks (arguments : List String) (error : UsageError) : Prop :=
  ∃ front items rest, arguments = front ++ rest ∧ Reads front items ∧
    (inputs items).length ≤ 1 ∧ Offends items rest error

namespace Options

/-- What one item changes. -/
def take (options : Options) : Item → Options
  | .help => { options with help := true }
  | .json => { options with json := true }
  | .halt => { options with halt := true }
  | .config path => { options with config := some path }
  | .input path => { options with input := some path }

def takeAll (options : Options) (items : List Item) : Options :=
  items.foldl take options

variable {options : Options} {items : List Item} {rest : List String}

theorem looksLikeOption_iff (argument : String) :
    looksLikeOption argument = true ↔ ['-', '-'] <+: argument.toList :=
  List.isPrefixOf_iff_prefix

theorem known_of_listed {argument : String} (listed : argument ∈ knownOptions) :
    ['-', '-'] <+: argument.toList := by
  simp only [knownOptions, List.mem_cons, List.not_mem_nil, or_false] at listed
  rcases listed with rfl | rfl | rfl | rfl <;> decide

/-- An argument without two dashes is none of the options. -/
theorem unlisted_of_plain {path : String} (plain : ¬ ['-', '-'] <+: path.toList) :
    path ∉ knownOptions :=
  fun listed => plain (known_of_listed listed)

theorem extend_dashed {argument : String} (dashed : ['-', '-'] <+: argument.toList)
    (unlisted : argument ∉ knownOptions) :
    extend options (argument :: rest) = .error (.unknownOption argument) := by
  have short : argument ≠ "-h" := by
    rintro rfl
    exact absurd dashed (by decide)
  simp only [knownOptions, List.mem_cons, List.not_mem_nil, or_false, not_or] at unlisted
  obtain ⟨help, json, halt, config⟩ := unlisted
  rw [extend.eq_def]
  simp [help, json, halt, config, short, (looksLikeOption_iff argument).mpr dashed]

theorem extend_plain {path : String} (written : (Item.input path).Written [path]) :
    extend options (path :: rest) =
      if options.input.isSome then .error .secondInput
      else extend (options.take (.input path)) rest := by
  cases written with
  | input other plain =>
      have unlisted := unlisted_of_plain plain
      simp only [knownOptions, List.mem_cons, List.not_mem_nil, or_false, not_or] at unlisted
      obtain ⟨help, json, halt, config⟩ := unlisted
      have undashed : looksLikeOption path = false := by
        rw [Bool.eq_false_iff, Ne, looksLikeOption_iff]
        exact plain
      rw [extend.eq_def]
      simp [help, json, halt, config, other, undashed, take]

/-- An item in its place is taken, and the reading goes on behind it. -/
theorem extend_written {item : Item} {words : List String} (written : item.Written words)
    (free : options.input.toList.length + (inputs [item]).length ≤ 1) :
    extend options (words ++ rest) = extend (options.take item) rest := by
  cases written with
  | input other plain =>
      have unset : options.input.isSome = false := by
        cases given : options.input with
        | none => rfl
        | some earlier => simp [given, inputs, Item.input?] at free
      rw [List.singleton_append, extend_plain (.input other plain), unset]
      rfl
  | _ =>
      rw [List.cons_append, extend.eq_def]
      simp [take]

theorem input_take {item : Item} (free : options.input.toList.length + (inputs [item]).length ≤ 1) :
    (options.take item).input.toList = options.input.toList ++ inputs [item] := by
  cases item with
  | input path =>
      cases given : options.input with
      | none => rfl
      | some earlier => simp [given, inputs, Item.input?] at free
  | _ => simp [take, inputs, Item.input?]

/-- Items in their places are taken one by one. -/
theorem extend_reads (options : Options) (rest : List String) {front : List String}
    (reads : Reads front items)
    (free : options.input.toList.length + (inputs items).length ≤ 1) :
    extend options (front ++ rest) = extend (options.takeAll items) rest ∧
      (options.takeAll items).input.toList = options.input.toList ++ inputs items := by
  induction reads generalizing options with
  | nil => exact ⟨rfl, by simp [takeAll, inputs]⟩
  | @cons item words arguments items written _ ih =>
      rw [inputs_cons, List.length_append] at free
      have here : options.input.toList.length + (inputs [item]).length ≤ 1 := by omega
      have taken := input_take here
      obtain ⟨ran, input⟩ := ih (options.take item) (by
        rw [taken, List.length_append]
        omega)
      constructor
      · rw [List.append_assoc, extend_written written here, ran]
        rfl
      · rw [inputs_cons, ← List.append_assoc, ← taken]
        exact input

theorem extend_offends {error : UsageError} (offends : Offends items rest error)
    (same : options.input.toList = inputs items) : extend options rest = .error error := by
  cases offends with
  | missingPath => rfl
  | unknown dashed unlisted => exact extend_dashed dashed unlisted
  | second written given =>
      have set : options.input.isSome = true := by
        cases input : options.input with
        | none =>
            rw [input] at same
            exact absurd same.symm given
        | some earlier => rfl
      rw [extend_plain written, if_pos set]

/-- What items leave set: a flag stays set, and a later configuration replaces an earlier one. -/
theorem takeAll_sets (options : Options) (items : List Item) :
    ((options.takeAll items).help = true ↔ options.help = true ∨ .help ∈ items) ∧
      ((options.takeAll items).json = true ↔ options.json = true ∨ .json ∈ items) ∧
      ((options.takeAll items).halt = true ↔ options.halt = true ∨ .halt ∈ items) ∧
      (options.takeAll items).config = (configs items).getLast?.or options.config := by
  induction items generalizing options with
  | nil => simp [takeAll, configs]
  | cons item items ih =>
      have first : options.takeAll (item :: items) = (options.take item).takeAll items := rfl
      obtain ⟨help, json, halt, config⟩ := ih (options.take item)
      rw [first, help, json, halt, config]
      cases item with
      | config path => simp [take, configs, Item.config?, List.getLast?_cons]
      | _ => simp [take, configs, Item.config?]

/-- Arguments that read as items with at most one input are accepted. -/
theorem parse_reads {arguments : List String} (reads : Reads arguments items)
    (single : (inputs items).length ≤ 1) :
    ∃ options, parse arguments = .ok options ∧ options.Means items := by
  obtain ⟨ran, input⟩ := extend_reads {} [] reads (by simpa using single)
  obtain ⟨help, json, halt, config⟩ := takeAll_sets {} items
  refine ⟨_, by rw [parse, ← List.append_nil arguments, ran, extend], ?_⟩
  constructor
  · simpa using help
  · simpa using json
  · simpa using halt
  · simpa using input
  · simpa using config

theorem parse_breaks {arguments : List String} {error : UsageError}
    (breaks : Breaks arguments error) : parse arguments = .error error := by
  obtain ⟨front, items, rest, rfl, reads, single, offends⟩ := breaks
  obtain ⟨ran, input⟩ := extend_reads {} rest reads (by simpa using single)
  rw [parse, ran]
  exact extend_offends offends (by simpa using input)

namespace Means

theorem unique {other : Options} (means : options.Means items) (others : other.Means items) :
    options = other := by
  have help : options.help = other.help :=
    Bool.eq_iff_iff.mpr (means.help.trans others.help.symm)
  have json : options.json = other.json :=
    Bool.eq_iff_iff.mpr (means.json.trans others.json.symm)
  have halt : options.halt = other.halt :=
    Bool.eq_iff_iff.mpr (means.halt.trans others.halt.symm)
  have input : options.input = other.input := by
    simpa using congrArg List.head? (means.input.trans others.input.symm)
  have config := means.config.trans others.config.symm
  obtain ⟨_, _, _, _, _⟩ := options
  simp only at help json halt input config
  rw [help, json, halt, input, config]

/-- Only the configurations care for the order of the items. -/
theorem perm {others : List Item} (means : options.Means items) (permuted : items.Perm others)
    (ordered : configs items = configs others) : options.Means others where
  help := means.help.trans permuted.mem_iff
  json := means.json.trans permuted.mem_iff
  halt := means.halt.trans permuted.mem_iff
  input := by
    have same := inputs_perm permuted
    rw [← means.input] at same
    cases input : options.input with
    | none => simpa [input] using same
    | some path => simpa [input] using same
  config := means.config.trans (congrArg List.getLast? ordered)

end Means

end Options

/-- What stands at the beginning of some arguments. -/
theorem first_cases (argument : String) (rest : List String) :
    (∃ item : Item, ∃ words later, argument :: rest = words ++ later ∧ item.Written words ∧
        later.length ≤ rest.length) ∨
      ∀ items, ∃ error, Offends items (argument :: rest) error := by
  by_cases dashed : ['-', '-'] <+: argument.toList
  · by_cases listed : argument ∈ knownOptions
    · simp only [knownOptions, List.mem_cons, List.not_mem_nil, or_false] at listed
      rcases listed with rfl | rfl | rfl | rfl
      · exact .inl ⟨_, _, rest, rfl, .longHelp, Nat.le_refl _⟩
      · exact .inl ⟨_, _, rest, rfl, .json, Nat.le_refl _⟩
      · exact .inl ⟨_, _, rest, rfl, .halt, Nat.le_refl _⟩
      · cases rest with
        | nil => exact .inr fun items => ⟨_, .missingPath⟩
        | cons path later => exact .inl ⟨_, _, later, rfl, .config path, by simp⟩
    · exact .inr fun items => ⟨_, .unknown dashed listed⟩
  · by_cases short : argument = "-h"
    · subst short
      exact .inl ⟨_, _, rest, rfl, .shortHelp, Nat.le_refl _⟩
    · exact .inl ⟨_, _, rest, rfl, .input short dashed, Nat.le_refl _⟩

/-- Arguments read as items up to their end or up to an item that is out of place. -/
theorem reads_or_breaks (arguments : List String) (given : List Item)
    (single : (inputs given).length ≤ 1) :
    ∃ front items rest, arguments = front ++ rest ∧ Reads front items ∧
      (inputs (given ++ items)).length ≤ 1 ∧
      (rest = [] ∨ ∃ error, Offends (given ++ items) rest error) := by
  match arguments with
  | [] => exact ⟨[], [], [], rfl, .nil, by simpa using single, .inl rfl⟩
  | argument :: tail =>
      rcases first_cases argument tail with ⟨item, words, later, split, written, shorter⟩ | stops
      · by_cases taken : (inputs (given ++ [item])).length ≤ 1
        · obtain ⟨front, items, rest, rfl, reads, fits, ends⟩ := reads_or_breaks later _ taken
          rw [List.append_assoc, List.singleton_append] at fits ends
          exact ⟨words ++ front, item :: items, rest, by rw [split, List.append_assoc],
            .cons written reads, fits, ends⟩
        · rw [inputs_append] at taken
          cases written with
          | input other plain =>
              have second : inputs given ≠ [] := by
                intro none
                rw [none] at taken
                exact taken (Nat.le_refl 1)
              refine ⟨[], [], argument :: tail, rfl, .nil, by simpa using single,
                .inr ⟨.secondInput, ?_⟩⟩
              rw [split, List.append_nil]
              exact .second (.input other plain) second
          | _ =>
              rw [← List.append_nil (inputs given)] at single
              exact absurd single taken
      · exact ⟨[], [], argument :: tail, rfl, .nil, by simpa using single,
          .inr (by simpa using stops given)⟩
termination_by arguments.length
decreasing_by
  rw [List.length_cons]
  omega

namespace Item

/-- The first argument tells which item it begins. -/
theorem Written.unique {item other : Item} {words others rest more : List String}
    (first : item.Written words) (second : other.Written others)
    (same : words ++ rest = others ++ more) : item = other ∧ rest = more := by
  cases first with
  | input other plain =>
      cases second with
      | input => simpa using same
      | shortHelp => exact absurd (List.cons.inj same).1 other
      | longHelp | json | halt | config =>
          rw [(List.cons.inj same).1] at plain
          exact absurd (by decide) plain
  | shortHelp =>
      cases second with
      | input other => exact absurd (List.cons.inj same).1.symm other
      | _ => simp_all
  | longHelp | json | halt | config =>
      cases second with
      | input _ plain =>
          rw [← (List.cons.inj same).1] at plain
          exact absurd (by decide) plain
      | _ => simp_all

theorem Written.ne_nil {item : Item} {words : List String} (written : item.Written words) :
    words ≠ [] := by
  cases written <;> exact List.cons_ne_nil _ _

end Item

/-- Arguments read as items in one way. -/
theorem Reads.unique {arguments : List String} {items others : List Item}
    (first : Reads arguments items) (second : Reads arguments others) : items = others := by
  induction first generalizing others with
  | nil =>
      generalize none : ([] : List String) = arguments at second
      cases second with
      | nil => rfl
      | cons written => exact absurd (List.append_eq_nil_iff.mp none.symm).1 written.ne_nil
  | @cons item words arguments items written _ ih =>
      generalize same : words ++ arguments = whole at second
      cases second with
      | nil => exact absurd (List.append_eq_nil_iff.mp same).1 written.ne_nil
      | cons other rest =>
          obtain ⟨rfl, rfl⟩ := written.unique other same
          rw [ih rest]

/-- Whatever the arguments, they are accepted for what they mean or refused for what they break. -/
theorem parse_cases (arguments : List String) :
    (∃ options items, Options.parse arguments = .ok options ∧ Reads arguments items ∧
        (inputs items).length ≤ 1 ∧ options.Means items) ∨
      ∃ error, Options.parse arguments = .error error ∧ Breaks arguments error := by
  obtain ⟨front, items, rest, rfl, reads, single, ends⟩ :=
    reads_or_breaks arguments [] (Nat.zero_le 1)
  rw [List.nil_append] at single ends
  rcases ends with rfl | ⟨error, offends⟩
  · rw [List.append_nil]
    obtain ⟨options, parsed, means⟩ := Options.parse_reads reads single
    exact .inl ⟨options, items, parsed, reads, single, means⟩
  · have breaks : Breaks (front ++ rest) error :=
      ⟨front, items, rest, rfl, reads, single, offends⟩
    exact .inr ⟨error, Options.parse_breaks breaks, breaks⟩

namespace Options

variable {arguments : List String} {options : Options}

theorem parse_eq_ok_iff : parse arguments = .ok options ↔
    ∃ items, Reads arguments items ∧ (inputs items).length ≤ 1 ∧ options.Means items := by
  constructor
  · intro parsed
    rcases parse_cases arguments with ⟨found, items, accepted, meant⟩ | ⟨error, refused, -⟩
    · obtain rfl : options = found := Except.ok.inj (parsed.symm.trans accepted)
      exact ⟨items, meant⟩
    · rw [parsed] at refused
      contradiction
  · rintro ⟨items, reads, single, means⟩
    obtain ⟨found, accepted, meant⟩ := parse_reads reads single
    rw [accepted, meant.unique means]

theorem parse_eq_error_iff {error : UsageError} :
    parse arguments = .error error ↔ Breaks arguments error := by
  constructor
  · intro failed
    rcases parse_cases arguments with ⟨options, items, accepted, -⟩ | ⟨found, refused, breaks⟩
    · rw [failed] at accepted
      contradiction
    · obtain rfl : error = found := Except.error.inj (failed.symm.trans refused)
      exact breaks
  · exact parse_breaks

theorem parse_perm {permuted : List String} {items others : List Item}
    (parsed : parse arguments = .ok options) (reads : Reads arguments items)
    (readsPermuted : Reads permuted others) (same : items.Perm others)
    (ordered : configs items = configs others) : parse permuted = .ok options := by
  obtain ⟨found, readsFound, single, means⟩ := parse_eq_ok_iff.mp parsed
  obtain rfl := reads.unique readsFound
  refine parse_eq_ok_iff.mpr ⟨others, readsPermuted, ?_, means.perm same ordered⟩
  rwa [← (inputs_perm same).length_eq]

end Options

theorem options_follow_grammar (arguments : List String) :
    (∀ options, Options.parse arguments = .ok options ↔
      ∃ items, Reads arguments items ∧ (inputs items).length ≤ 1 ∧ options.Means items) ∧
    (∀ error, Options.parse arguments = .error error ↔ Breaks arguments error) ∧
    (∀ options items others permuted, Options.parse arguments = .ok options →
      Reads arguments items → Reads permuted others → items.Perm others →
      configs items = configs others → Options.parse permuted = .ok options) :=
  ⟨fun _ => Options.parse_eq_ok_iff, fun _ => Options.parse_eq_error_iff,
    fun _ _ _ _ => Options.parse_perm⟩

theorem options_follow_grammar_mixed :
    let arguments := ["--config", "--json", "-h", "-x", "--config", "--", "--halt"]
    let items : List Item :=
      [.config "--json", .help, .input "-x", .config "--", .halt]
    let permuted := ["-x", "--halt", "--config", "--json", "--help", "--config", "--"]
    let others : List Item :=
      [.input "-x", .halt, .config "--json", .help, .config "--"]
    let options : Options := { input := some "-x", config := some "--", halt := true, help := true }
    Options.parse arguments = .ok options ∧ Reads arguments items ∧ Reads permuted others ∧
      items.Perm others ∧ configs items = configs others ∧
      Options.parse permuted = .ok options := by
  intro arguments items permuted others options
  have input : (Item.input "-x").Written ["-x"] := .input (by decide) (by decide)
  have parsed : Options.parse arguments = .ok options := by decide
  have reads : Reads arguments items :=
    .cons (.config _) (.cons .shortHelp (.cons input (.cons (.config _) (.cons .halt .nil))))
  have readsPermuted : Reads permuted others :=
    .cons input (.cons .halt (.cons (.config _) (.cons .longHelp (.cons (.config _) .nil))))
  have same : items.Perm others := by decide
  exact ⟨parsed, reads, readsPermuted, same, rfl,
    (options_follow_grammar arguments).2.2 options items others permuted parsed reads
      readsPermuted same rfl⟩

end Poco.Cli
