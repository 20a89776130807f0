import LspRelay.CommandLine.Parse

namespace LspRelay.Proofs.CommandLines
open CommandLine

/-- An argument that has no dash in front; it may be empty. -/
structure Undashed where
  text : String
  head : '-' ∉ text.toList.head?

/-- The relay's own options as they can be spelt before the server. -/
inductive Spelling where
  | letters (more : Nat)
  | verbose
  | interpreter (name : Undashed)
  | assigned (name : String)

namespace Spelling

/-- The arguments that spell an option; an interpreter's name may be one of its own. -/
def arguments : Spelling → List String
  | letters more => [String.ofList ('-' :: List.replicate (more + 1) 'v')]
  | verbose => ["--verbose"]
  | interpreter name => ["--interpreter", name.text]
  | assigned name => ["--interpreter=" ++ name]

def count : Spelling → Nat
  | letters more => more + 1
  | verbose => 1
  | _ => 0

def name? : Spelling → Option String
  | interpreter name => some name.text
  | assigned name => some name
  | _ => none

end Spelling

def verbosity : List Spelling → Nat
  | [] => 0
  | o :: os => o.count + verbosity os

def names (options : List Spelling) : List String := options.filterMap Spelling.name?

def spelt (options : List Spelling) : List String := options.flatMap Spelling.arguments

/-- So many requests to log more, this interpreter, and nothing that is still to be taken over. -/
structure Told (s : Seen) (count : Nat) (name : Option String) : Prop where
  pending : s.pending = .nothing
  verbose : s.verbose = min 255 count
  interpreter : s.interpreter = name

/-- What has been read comes to that when the next argument makes it take over what is pending. -/
def Comes (s : Seen) (count : Nat) (name : Option String) : Prop :=
  ∃ t, s.settle = .ok t ∧ Told t count name

variable {env : Option String} {s : Seen} {count : Nat} {name : Option String}
  {args : List String}

theorem ofArgument_undashed (word : Undashed) :
    Argument.ofArgument word.text = .word word.text := by
  have hhead := word.head
  unfold Argument.ofArgument
  split <;> simp_all

theorem ofArgument_letters (more : Nat) :
    Argument.ofArgument (String.ofList ('-' :: List.replicate (more + 1) 'v')) =
      .group (List.replicate (more + 1) .verbose) := by
  have hletters : ∀ n, (List.replicate n 'v').mapM Switch.ofLetter? =
      some (List.replicate n .verbose) := by
    intro n
    induction n with
    | zero => rfl
    | succ n ih => simp [List.replicate_succ, List.mapM_cons, ih, Switch.ofLetter?]
  simp [Argument.ofArgument, List.replicate_succ, List.mapM_cons, hletters, Switch.ofLetter?]

theorem ofLong?_assigned (value : List Char) :
    Argument.ofLong? ("interpreter".toList ++ '=' :: value) =
      some (.assigned .interpreter (String.ofList value)) := by
  have hplain : ∀ c ∈ "interpreter".toList, decide (c ≠ '=') = true :=
    List.all_eq_true.mp (by decide)
  have hname : Switch.ofName? "interpreter".toList = some .interpreter := by decide
  have hstop : ('=' :: value).takeWhile (fun c => decide (c ≠ '=')) = [] := rfl
  rw [Argument.ofLong?, List.takeWhile_append_of_pos hplain, hstop, List.append_nil, hname,
    List.dropWhile_append_of_pos hplain]
  rfl

theorem ofArgument_assigned (name : String) :
    Argument.ofArgument ("--interpreter=" ++ name) = .assigned .interpreter name := by
  have hlong := ofLong?_assigned name.toList
  simp at hlong
  simp [Argument.ofArgument, hlong]

theorem Told.comes (h : Told s count name) : Comes s count name :=
  ⟨s, by rw [Seen.settle, h.pending], h⟩

theorem Told.addVerbose (h : Told s count name) : Told s.addVerbose (count + 1) name := by
  refine ⟨h.pending, ?_, h.interpreter⟩
  have hv := h.verbose
  simp only [Seen.addVerbose]
  omega

theorem Told.group (env : Option String) (h : Told s count name) (n : Nat) :
    ∃ t, (List.replicate n Switch.verbose).foldlM (apply env) s = .ok t ∧
      Told t (count + n) name := by
  induction n generalizing s count with
  | zero => exact ⟨s, rfl, h⟩
  | succ n ih =>
    obtain ⟨t, ht, htold⟩ := ih h.addVerbose
    refine ⟨t, ht, ?_⟩
    rwa [Nat.add_assoc, Nat.add_comm 1] at htold

theorem Told.giveInterpreter (h : Told s count none) (given : String) :
    ∃ t, s.giveInterpreter given = .ok t ∧ Told t count (some given) := by
  simp only [Seen.giveInterpreter, h.interpreter]
  exact ⟨_, rfl, h.pending, h.verbose, rfl⟩

theorem readSwitches_group {arg : String} {switches : List Switch} {t u : Seen}
    (harg : Argument.ofArgument arg = .group switches) (hs : s.settle = .ok t)
    (ht : switches.foldlM (apply env) t = .ok u) :
    readSwitches env s (arg :: args) = readSwitches env u args := by
  simp only [readSwitches, harg, hs, ht, bind, Except.bind]

theorem readSwitches_long {arg : String} {switch : Switch} {t u : Seen}
    (harg : Argument.ofArgument arg = .long switch) (hs : s.settle = .ok t)
    (ht : apply env t switch = .ok u) :
    readSwitches env s (arg :: args) = readSwitches env u args := by
  simp only [readSwitches, harg, hs, ht, bind, Except.bind]

theorem readSwitches_assigned {arg given : String} {t u : Seen}
    (harg : Argument.ofArgument arg = .assigned .interpreter given) (hs : s.settle = .ok t)
    (ht : t.giveInterpreter given = .ok u) :
    readSwitches env s (arg :: args) = readSwitches env u args := by
  simp only [readSwitches, harg, hs, ht, bind, Except.bind]

theorem readSwitches_awaited {word : String} (harg : Argument.ofArgument word = .word word)
    (hs : s.pending = .awaited) :
    readSwitches env s (word :: args) = readSwitches env { s with pending := .held word } args := by
  simp only [readSwitches, harg, hs, if_true]

/-- A word that is not awaited ends the options. -/
theorem readSwitches_word {word : String} {t : Seen}
    (harg : Argument.ofArgument word = .word word) (hs : s.settle = .ok t) :
    readSwitches env s (word :: args) = .ok (t, word :: args) := by
  have hnot : s.pending ≠ .awaited := by
    intro ha
    rw [Seen.settle, ha] at hs
    cases hs
  simp only [readSwitches, harg, hnot, if_false, hs, bind, Except.bind]
  rfl

/-- One option, whatever comes behind it. -/
theorem readSwitches_arguments (env : Option String) (o : Spelling) (h : Comes s count name)
    (hone : o.name? ≠ none → name = none) :
    ∃ t, (∀ rest, readSwitches env s (o.arguments ++ rest) = readSwitches env t rest) ∧
      Comes t (count + o.count) (name.or o.name?) := by
  obtain ⟨t, hs, ht⟩ := h
  cases o with
  | letters more =>
    obtain ⟨u, hu, htold⟩ := ht.group env (more + 1)
    refine ⟨u, fun rest => readSwitches_group (ofArgument_letters more) hs hu, ?_⟩
    simpa [Spelling.name?, Spelling.count] using htold.comes
  | verbose =>
    have harg : Argument.ofArgument "--verbose" = .long .verbose := by decide
    refine ⟨t.addVerbose, fun rest => readSwitches_long harg hs rfl, ?_⟩
    simpa [Spelling.name?, Spelling.count] using ht.addVerbose.comes
  | interpreter word =>
    obtain rfl : name = none := hone (by simp [Spelling.name?])
    have harg : Argument.ofArgument "--interpreter" = .long .interpreter := by decide
    -- The name is only held: the argument behind it, whatever it is, makes it count.
    refine ⟨{ t with pending := .held word.text }, fun rest => ?_, ?_⟩
    · exact (readSwitches_long harg hs rfl).trans
        (readSwitches_awaited (ofArgument_undashed word) rfl)
    · have hclear : Told { t with pending := .nothing } count none :=
        ⟨rfl, ht.verbose, ht.interpreter⟩
      exact hclear.giveInterpreter word.text
  | assigned given =>
    obtain rfl : name = none := hone (by simp [Spelling.name?])
    obtain ⟨u, hu, htold⟩ := ht.giveInterpreter given
    exact ⟨u, fun rest => readSwitches_assigned (ofArgument_assigned given) hs hu, htold.comes⟩

theorem names_cons (o : Spelling) (options : List Spelling) :
    names (o :: options) = o.name?.toList ++ names options := by
  cases h : o.name? <;> simp [names, h]

/-- Of two names that may be there and others there is at most one: the first that is there. -/
theorem or_head? {a b : Option String} {others : List String}
    (h : (a.toList ++ (b.toList ++ others)).length ≤ 1) :
    (b ≠ none → a = none) ∧ ((a.or b).toList ++ others).length ≤ 1 ∧
      (a.or b).or others.head? = a.or (b.toList ++ others).head? := by
  cases a with
  | none => cases b <;> simpa using h
  | some a => cases b <;> simp_all

/-- All options in front of something else, if they name an interpreter at most once. -/
theorem readSwitches_spelt (env : Option String) {options : List Spelling} (h : Comes s count name)
    (hone : (name.toList ++ names options).length ≤ 1) :
    ∃ t, (∀ rest, readSwitches env s (spelt options ++ rest) = readSwitches env t rest) ∧
      Comes t (count + verbosity options) (name.or (names options).head?) := by
  induction options generalizing s count name with
  | nil => exact ⟨s, fun rest => rfl, by simpa [verbosity, names] using h⟩
  | cons o options ih =>
    rw [names_cons] at hone
    obtain ⟨hfirst, hlater, hhead⟩ := or_head? hone
    obtain ⟨t, ht, hcomes⟩ := readSwitches_arguments env o h hfirst
    obtain ⟨u, hu, hlast⟩ := ih hcomes hlater
    refine ⟨u, fun rest => ?_, ?_⟩
    · rw [spelt, List.flatMap_cons, List.append_assoc, ht]
      exact hu rest
    · rw [names_cons, verbosity, ← Nat.add_assoc, ← hhead]
      exact hlast

/-- The interpreter that options and the environment come to; an empty name stands for none. -/
def chosen (options : List Spelling) (env : Option String) : Option String :=
  ((names options).head?.or env).filter (· ≠ "")

theorem verbosity_perm {options others : List Spelling} (h : others.Perm options) :
    verbosity others = verbosity options := by
  induction h with
  | nil => rfl
  | cons o _ ih => rw [verbosity, verbosity, ih]
  | swap o p os => simp only [verbosity, Nat.add_left_comm]
  | trans _ _ ih ih' => exact ih.trans ih'

/-- Two lists with the same elements have the same first one if there is at most one. -/
theorem head?_perm {xs ys : List String} (h : ys.Perm xs) (hone : xs.length ≤ 1) :
    ys.head? = xs.head? := by
  match xs, hone with
  | [], _ => rw [h.eq_nil]
  | [x], _ => rw [h.eq_singleton]

/-- Some options and a server are read as what the options say, whether or not a separator parts
them; the server and all that follows it are kept. -/
theorem parse_spelt (env : Option String) {options : List Spelling} (server : Undashed)
    (args : List String) (hone : (names options).length ≤ 1) {parting : List String}
    (hparting : parting = [] ∨ parting = ["--"]) :
    parse env (spelt options ++ (parting ++ server.text :: args)) =
      .ok ⟨server.text, args, chosen options env, min 255 (verbosity options)⟩ := by
  have hstart : Told .start 0 none := ⟨rfl, rfl, rfl⟩
  obtain ⟨s, hs, t, ht, htold⟩ := readSwitches_spelt env hstart.comes hone
  have hread : readSwitches env s (parting ++ server.text :: args) =
      .ok (t, server.text :: args) := by
    rcases hparting with rfl | rfl
    · exact readSwitches_word (ofArgument_undashed server) ht
    · have harg : Argument.ofArgument "--" = .separator := by decide
      simp only [List.cons_append, List.nil_append, readSwitches, harg, ht, bind, Except.bind]
      rfl
  simp only [parse, hs, hread, bind, Except.bind, htold.verbose, htold.interpreter, Option.none_or,
    Nat.zero_add]
  rfl

/-- Options in any order, with at most one interpreter among them, come to the same settings, and a
separator behind them changes nothing. The server and its arguments are what stands behind the
options, however these arguments look. The interpreter is the one that an option names, even if it
names none, and else the environment's; it is launched with the server as its first argument. -/
theorem parse_of_options (env : Option String) {options : List Spelling} (server : Undashed)
    (args : List String) (hone : (names options).length ≤ 1) :
    let settings : Settings :=
      ⟨server.text, args, chosen options env, min 255 (verbosity options)⟩
    (∀ others : List Spelling, others.Perm options →
      parse env (spelt others ++ server.text :: args) = .ok settings ∧
        parse env (spelt others ++ "--" :: server.text :: args) = .ok settings) ∧
      settings.launch = match chosen options env with
        | some name => (name, server.text :: args)
        | none => (server.text, args) := by
  intro settings
  refine ⟨fun others hperm => ?_, ?_⟩
  · have hnames : (names others).Perm (names options) := hperm.filterMap _
    have hfew : (names others).length ≤ 1 := hnames.length_eq ▸ hone
    have hsame : (⟨server.text, args, chosen others env, min 255 (verbosity others)⟩ : Settings) =
        settings := by
      rw [chosen, head?_perm hnames hone, verbosity_perm hperm]
      rfl
    rw [← hsame]
    exact ⟨parse_spelt env server args hfew (.inl rfl),
      parse_spelt env server args hfew (.inr rfl)⟩
  · cases hc : chosen options env <;> simp only [Settings.launch, settings, hc]

/-- An empty name outdoes the environment, and options behind the server are the server's. -/
theorem parse_of_options_emptied :
    let options : List Spelling := [.letters 1, .assigned "", .verbose]
    let others : List Spelling := [.assigned "", .verbose, .letters 1]
    let args := ["-v", "--interpreter", "node", "--", "", "--help"]
    (names options).length ≤ 1 ∧ others.Perm options ∧
      spelt others = ["--interpreter=", "--verbose", "-vv"] ∧
      parse (some "node") (spelt others ++ "--" :: "main.js" :: args) =
        .ok ⟨"main.js", args, none, 3⟩ := by
  intro options others args
  have hone : (names options).length ≤ 1 := by decide
  have hperm : others.Perm options :=
    List.perm_append_singleton (Spelling.letters 1) [Spelling.assigned "", Spelling.verbose]
  have hread := (parse_of_options (some "node") ⟨"main.js", by decide⟩ args hone).1 others hperm
  exact ⟨hone, hperm, by decide, hread.2⟩

end LspRelay.Proofs.CommandLines
