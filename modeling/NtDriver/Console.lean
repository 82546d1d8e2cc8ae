import NtDriver.DllLibrary
import NtDriver.ToggleTruth

/-!
# The console client

`main` loads the DLL, reads words and passes three of them on as calls.  It looks at
neither the status of a call nor the state of the input, so the word `exit` is the only
way out of its loop.  The word `test` makes the driver send a message of its own, and wait
for its answer without a timeout.
-/

namespace NtDriver.Console

open Handles Library ClientCommands ProcNotify

/-! ## Words -/

def isSpace (c : Char) : Bool := c == ' ' || (9 ≤ c.toNat && c.toNat ≤ 13)

/-- `cin >> command`, with what is left of the input; at its end `command` stays empty. -/
def readCommand (input : List Char) : List Char × List Char :=
  let rest := input.dropWhile isSpace
  (rest.takeWhile (!isSpace ·), rest.dropWhile (!isSpace ·))

/-- The words of a text. -/
def words (input : List Char) : List (List Char) := (input.splitOnP isSpace).filter (· ≠ [])

section Words

variable {input : List Char}

theorem words_cons_space {c : Char} (h : isSpace c = true) (input : List Char) :
    words (c :: input) = words input := by
  simp [words, List.splitOnP_cons_eq_if_modifyHead, h]

theorem words_dropWhile (input : List Char) : words (input.dropWhile isSpace) = words input := by
  induction input with
  | nil => rfl
  | cons c input ih =>
      cases hspace : isSpace c with
      | true => rw [List.dropWhile_cons_of_pos hspace, words_cons_space hspace, ih]
      | false => rw [List.dropWhile_cons_of_neg (by simp [hspace])]

theorem not_of_dropWhile_eq_cons {p : Char → Bool} {c : Char} {cs : List Char}
    (h : input.dropWhile p = c :: cs) : p c = false := by
  simpa [h] using List.head?_dropWhile_not p input

/-- A word and what a space parts it from. -/
theorem words_append {word rest : List Char} (hword : word ≠ [])
    (hplain : ∀ c ∈ word, isSpace c = false)
    (hrest : ∀ c cs, rest = c :: cs → isSpace c = true) :
    words (word ++ rest) = word :: words rest := by
  cases rest with
  | nil => simp [words, List.splitOnP_eq_singleton hplain, hword]
  | cons c rest =>
      have hspace := hrest c rest rfl
      rw [words_cons_space hspace]
      simp [words, List.splitOnP_append_cons_of_forall_mem hplain c hspace, hword]

theorem words_of_readCommand_nil (h : (readCommand input).1 = []) :
    words input = [] ∧ (readCommand input).2 = [] := by
  have hend : input.dropWhile isSpace = [] := by
    cases hrest : input.dropWhile isSpace with
    | nil => rfl
    | cons c rest =>
        simp [readCommand, hrest, not_of_dropWhile_eq_cons hrest] at h
  refine ⟨?_, by simp [readCommand, hend]⟩
  rw [← words_dropWhile, hend]
  rfl

theorem words_of_readCommand (h : (readCommand input).1 ≠ []) :
    words input = (readCommand input).1 :: words (readCommand input).2 := by
  have hsplit : (readCommand input).1 ++ (readCommand input).2 = input.dropWhile isSpace :=
    List.takeWhile_append_dropWhile
  rw [← words_dropWhile input, ← hsplit]
  apply words_append h
  · intro c hc
    simpa using List.mem_takeWhile_imp hc
  · intro c cs hrest
    simpa using not_of_dropWhile_eq_cons hrest

end Words

/-! ## The program -/

/-- The surroundings of the program: `call k` is those of the call of round `k`, `answers k`
says whether a thread that runs then answers the driver, and `joins` whether the threads
end once they are told to. -/
structure Env where
  loadLibrary : Bool
  getProcAddress : String → Bool
  init : InitEnv
  call : ℕ → CallEnv
  answers : ℕ → Bool
  joins : Bool

def exit : List Char := ['e', 'x', 'i', 't']

def test : List Char := ['t', 'e', 's', 't']

def procmonOn : List Char := ['p', 'r', 'o', 'c', 'm', 'o', 'n', '_', 'o', 'n']

def procmonOff : List Char := ['p', 'r', 'o', 'c', 'm', 'o', 'n', '_', 'o', 'f', 'f']

section Program

variable (env : Env)

/-- `TestCommand` returns: it does not reach the driver, or the driver's `FltSendMessage`
in it fails, or a thread of the library answers that. -/
def testReturns (library : Library) (round : ℕ) : Bool :=
  let c := env.call round
  !(library.gDllConnFilterPort.isSome && c.delivered) ||
    !ntSuccess (c.send (clientVersionMessage c.stack)).status ||
      (!library.running.isEmpty && env.answers round)

/-- `TestCommand`, or `none` when it waits for ever. -/
def testCommand (library : Library) (round : ℕ) (notify : ProcNotify) : Option ProcNotify :=
  if testReturns env library round then
    some ((env.call round).testCommand library.gDllConnFilterPort.isSome notify).2
  else none

def toggle (library : Library) (round : ℕ) (onOrOff : UInt8) (notify : ProcNotify) : ProcNotify :=
  ((env.call round).toggleProcessMonitoring library.gDllConnFilterPort.isSome onOrOff notify).2

/-- The `if` statements behind the one for `exit`. -/
def runCommand (library : Library) (round : ℕ) (command : List Char) (notify : ProcNotify) :
    Option ProcNotify := do
  let notify ← if command = test then testCommand env library round notify else some notify
  let notify := if command = procmonOn then toggle env library round 1 notify else notify
  some (if command = procmonOff then toggle env library round 0 notify else notify)

/-- How `while (true)` stands when the fuel is used up: it goes on, it waits in
`TestCommand`, or it was left. -/
inductive Loop where
  | running
  | sending
  | left (notify : ProcNotify)

/-- `while (true)` from some round on. -/
def loop (library : Library) : ℕ → ℕ → List Char → ProcNotify → Loop
  | 0, _, _, _ => .running
  | fuel + 1, round, input, notify =>
      let (command, input) := readCommand input
      if command = exit then .left notify
      else
        match runCommand env library round command notify with
        | none => .sending
        | some notify => loop library fuel (round + 1) input notify

/-- How far `main` gets: it is still in its loop, it waits in `TestCommand` for an answer
to the driver, it waits in `UninitializeDriverLibrary` for a thread to end,
`std::terminate` has ended the process, or it has returned. -/
inductive Outcome where
  | running
  | sending
  | joining
  | terminated
  | returned (status : ℤ) (library : Library) (notify : ProcNotify)

def main (fuel : ℕ) (input : List Char) (notify : ProcNotify) : Outcome :=
  if !env.loadLibrary then .returned (-1) loaded notify
  else if !env.getProcAddress "InitializeDriverLibrary" then .returned (-1) loaded notify
  else if !env.getProcAddress "UninitializeDriverLibrary" then .returned (-1) loaded notify
  else
    match initializeDriverLibrary env.init loaded with
    | none => .terminated
    | some (_, library) =>
        if !env.getProcAddress "DexTestCommand" then .returned (-1) library notify
        else if !env.getProcAddress "DexToggleProcessMonitoring" then
          .returned (-1) library notify
        else
          match loop env library fuel 0 input notify with
          | .running => .running
          | .sending => .sending
          | .left notify =>
              -- only a thread that was started is waited for
              if env.joins || library.gCommunicationThreads.isEmpty then
                .returned 0 (uninitializeDriverLibrary library).2 notify
              else .joining

end Program

/-! ## The monitor that the words control -/

/-- What one word, read in round `k`, makes of the registration. -/
def obey (env : Env) (connected : Bool) (registered : Bool) (command : List Char × ℕ) : Bool :=
  let c := env.call command.2
  if connected && c.delivered then
    if command.1 = procmonOn then registered || ntSuccess c.psSet
    else if command.1 = procmonOff then false
    else registered
  else registered

/-- The words ahead of the first `exit`, with their rounds. -/
def obeyed (round : ℕ) (input : List Char) : List (List Char × ℕ) :=
  ((words input).takeWhile (· ≠ exit)).zipIdx round

def both (registered : Bool) : ProcNotify := ⟨registered, registered⟩

/-- The word is `test`, and the driver's message in its call is never answered. -/
def Stuck (env : Env) (library : Library) (command : List Char × ℕ) : Prop :=
  command.1 = test ∧ testReturns env library command.2 = false

/-- The kernel removes the routine for every `procmon_off`. -/
def Removes (env : Env) (round : ℕ) (input : List Char) : Prop :=
  ∀ command ∈ obeyed round input, command.1 = procmonOff →
    ntSuccess (env.call command.2).psSet = true

section Monitor

variable {env : Env} {library : Library} {registered : Bool} {round : ℕ} {input : List Char}

theorem eq_both {n : ProcNotify} (h : FlagAgrees n) : n = both n.registered :=
  congrArg₂ ProcNotify.mk rfl h

theorem toggleProcessMonitoring_both (c : CallEnv) (connected : Bool) (onOrOff : UInt8)
    (hremoves : ¬ 1 = onOrOff → ntSuccess c.psSet = true) :
    (c.toggleProcessMonitoring connected onOrOff (both registered)).2 =
      both (if connected && c.delivered then
        if 1 = onOrOff then registered || ntSuccess c.psSet else false else registered) := by
  let t : ToggleTruth.Toggle := ⟨onOrOff, connected, c⟩
  have hflag : FlagAgrees (both registered) := rfl
  change (t.call (both registered)).2 = _
  by_cases hdelivered : t.Delivered
  · have hboth : (connected && c.delivered) = true := by
      rw [Bool.and_eq_true]
      exact hdelivered
    rw [if_pos hboth]
    by_cases hon : 1 = onOrOff
    · rw [ToggleTruth.call_enable hdelivered hon, if_pos hon,
        eq_both (ToggleTruth.flagAgrees_drvInitializeProcNotify hflag),
        ToggleTruth.registered_drvInitializeProcNotify hflag]
      rfl
    · have hallows : (both registered).gProcessNotifyRegistered = true →
          PsSetAllows true c.psSet (both registered) := by
        intro _ hfails
        exact absurd (hremoves hon) (by simp [hfails])
      rw [ToggleTruth.call_disable hdelivered hon, if_neg hon,
        eq_both (ToggleTruth.flagAgrees_drvUninitializeProcNotify hflag hallows),
        ToggleTruth.registered_drvUninitializeProcNotify hflag hallows]
  · have hneither : ¬ (connected && c.delivered) = true := by
      rw [Bool.and_eq_true]
      exact hdelivered
    rw [if_neg hneither, (ToggleTruth.call_not_delivered hdelivered).2]

theorem runCommand_stuck {command : List Char} (h : Stuck env library (command, round))
    (notify : ProcNotify) : runCommand env library round command notify = none := by
  obtain ⟨rfl, hstays⟩ := h
  have hnone : testCommand env library round notify = none := by
    simpa [testCommand] using hstays
  simp only [runCommand, if_true, hnone]
  rfl

/-- A call that returns does what the word says. -/
theorem runCommand_both (command : List Char) (hreturns : ¬ Stuck env library (command, round))
    (hremoves : command = procmonOff → ntSuccess (env.call round).psSet = true) :
    runCommand env library round command (both registered) =
      some (both (obey env library.gDllConnFilterPort.isSome registered (command, round))) := by
  unfold runCommand obey
  by_cases htest : command = test
  · subst htest
    have hon : ¬ test = procmonOn := by decide
    have hoff : ¬ test = procmonOff := by decide
    have hcall : testReturns env library round = true :=
      Bool.eq_true_of_not_eq_false fun hstays ↦ hreturns ⟨rfl, hstays⟩
    simp [testCommand, hcall, hon, hoff, CallEnv.testCommand_keeps]
  · by_cases hon : command = procmonOn
    · subst hon
      have hoff : ¬ procmonOn = procmonOff := by decide
      have hcall := @toggleProcessMonitoring_both registered (env.call round)
        library.gDllConnFilterPort.isSome 1 fun hne ↦ absurd rfl hne
      simpa [htest, hoff, toggle] using hcall
    · by_cases hoff : command = procmonOff
      · subst hoff
        have hcall := @toggleProcessMonitoring_both registered (env.call round)
          library.gDllConnFilterPort.isSome 0 fun _ ↦ hremoves rfl
        simpa [htest, hon, toggle] using hcall
      · simp [htest, hon, hoff]

theorem runCommand_isSome (command : List Char) (hreturns : ¬ Stuck env library (command, round))
    (notify : ProcNotify) : ∃ notify', runCommand env library round command notify =
      some notify' := by
  by_cases htest : command = test
  · have hcall : testReturns env library round = true :=
      Bool.eq_true_of_not_eq_false fun hstays ↦ hreturns ⟨htest, hstays⟩
    exact ⟨_, by simp only [runCommand, testCommand, hcall, htest, if_true]; rfl⟩
  · exact ⟨_, by simp only [runCommand, if_neg htest]; rfl⟩

/-- A word of the input and the round that reads it. -/
theorem readCommand_of_words {word : List Char} {rest : List (List Char)}
    (h : words input = word :: rest) :
    (readCommand input).1 = word ∧ words (readCommand input).2 = rest := by
  by_cases hnil : (readCommand input).1 = []
  · rw [(words_of_readCommand_nil hnil).1] at h
    cases h
  · rw [words_of_readCommand hnil] at h
    exact List.cons.inj h

theorem obeyed_cons {word : List Char} {rest : List (List Char)} (h : words input = word :: rest)
    (hleave : word ≠ exit) :
    obeyed round input = (word, round) :: obeyed (round + 1) (readCommand input).2 := by
  simp [obeyed, h, (readCommand_of_words h).2, hleave]

/-- One round of the loop on a word. -/
theorem loop_cons {word : List Char} {rest : List (List Char)} (h : words input = word :: rest)
    (hleave : word ≠ exit) {notify notify' : ProcNotify}
    (hcall : runCommand env library round word notify = some notify') (fuel : ℕ) :
    loop env library (fuel + 1) round input notify =
      loop env library fuel (round + 1) (readCommand input).2 notify' := by
  simp only [loop, (readCommand_of_words h).1, if_neg hleave, hcall]

/-- What the loop comes to from the next word on, it comes to from this one. -/
theorem loop_later {word : List Char} {rest : List (List Char)} (h : words input = word :: rest)
    (hleave : word ≠ exit) {notify notify' : ProcNotify} {r : Loop}
    (hcall : runCommand env library round word notify = some notify')
    (hlater : ∃ enough, ∀ fuel ≥ enough,
      loop env library fuel (round + 1) (readCommand input).2 notify' = r) :
    ∃ enough, ∀ fuel ≥ enough, loop env library fuel round input notify = r := by
  obtain ⟨enough, henough⟩ := hlater
  refine ⟨enough + 1, fun fuel hfuel ↦ ?_⟩
  obtain ⟨fuel, rfl⟩ := Nat.exists_eq_add_of_le' ((Nat.le_add_left 1 enough).trans hfuel)
  rw [loop_cons h hleave hcall]
  exact henough fuel (Nat.le_of_succ_le_succ hfuel)

/-- The loop obeys the words up to the first `exit`. -/
theorem loop_of_exit (hexit : exit ∈ words input) (hremoves : Removes env round input)
    (hreturns : ∀ command ∈ obeyed round input, ¬ Stuck env library command) :
    ∃ enough, ∀ fuel ≥ enough, loop env library fuel round input (both registered) =
      .left (both ((obeyed round input).foldl
        (obey env library.gDllConnFilterPort.isSome) registered)) := by
  induction hwords : words input generalizing input round registered with
  | nil => simp [hwords] at hexit
  | cons word rest ih =>
      by_cases hleave : word = exit
      · refine ⟨1, fun fuel hfuel ↦ ?_⟩
        obtain ⟨fuel, rfl⟩ := Nat.exists_eq_add_of_le' hfuel
        simp [loop, (readCommand_of_words hwords).1, obeyed, hwords, hleave]
      · have hrest := (readCommand_of_words hwords).2
        have hobeyed : obeyed round input = _ := obeyed_cons hwords hleave
        have hexit' : exit ∈ words (readCommand input).2 := by
          rw [hwords] at hexit
          rw [hrest]
          exact (List.mem_cons.mp hexit).resolve_left fun heq ↦ hleave heq.symm
        rw [hobeyed] at hreturns ⊢
        rw [Removes, hobeyed] at hremoves
        have hstep := @runCommand_both env library registered round word
          (hreturns _ List.mem_cons_self) (hremoves (word, round) List.mem_cons_self)
        exact loop_later hwords hleave hstep <| @ih
          (obey env library.gDllConnFilterPort.isSome registered (word, round)) (round + 1)
          (readCommand input).2 hexit' (fun _ h ↦ hremoves _ (List.mem_cons_of_mem _ h))
          (fun _ h ↦ hreturns _ (List.mem_cons_of_mem _ h)) hrest

/-- A `test` whose message is not answered is the last word that the loop reads. -/
theorem loop_of_stuck (hstuck : ∃ command ∈ obeyed round input, Stuck env library command)
    (notify : ProcNotify) :
    ∃ enough, ∀ fuel ≥ enough, loop env library fuel round input notify = .sending := by
  induction hwords : words input generalizing input round notify with
  | nil => simp [obeyed, hwords] at hstuck
  | cons word rest ih =>
      by_cases hleave : word = exit
      · simp [obeyed, hwords, hleave] at hstuck
      rw [obeyed_cons hwords hleave] at hstuck
      by_cases hhere : Stuck env library (word, round)
      · refine ⟨1, fun fuel hfuel ↦ ?_⟩
        obtain ⟨fuel, rfl⟩ := Nat.exists_eq_add_of_le' hfuel
        simp only [loop, (readCommand_of_words hwords).1, if_neg hleave,
          runCommand_stuck hhere notify]
      · obtain ⟨notify', hstep⟩ := runCommand_isSome word hhere notify
        have hlater : ∃ command ∈ obeyed (round + 1) (readCommand input).2,
            Stuck env library command := by
          obtain ⟨command, hcommand, hstuck⟩ := hstuck
          rcases List.mem_cons.mp hcommand with rfl | hcommand
          · exact absurd hstuck hhere
          · exact ⟨command, hcommand, hstuck⟩
        exact loop_later hwords hleave hstep
          (ih hlater notify' (readCommand_of_words hwords).2)

/-- Without the word `exit` the loop goes on, past the end of the input. -/
theorem loop_of_not_exit (hexit : exit ∉ words input)
    (hreturns : ∀ command ∈ obeyed round input, ¬ Stuck env library command) (fuel : ℕ)
    (notify : ProcNotify) : loop env library fuel round input notify = .running := by
  induction fuel generalizing round input notify with
  | zero => rfl
  | succ fuel ih =>
      cases hwords : words input with
      | nil =>
          have hnil : (readCommand input).1 = [] := by
            by_contra hnil
            rw [words_of_readCommand hnil] at hwords
            cases hwords
          have hcall : runCommand env library round [] notify = some notify := rfl
          have hend : words (readCommand input).2 = [] := by
            rw [(words_of_readCommand_nil hnil).2]
            rfl
          simp only [loop, hnil, if_neg (by decide : ¬ [] = exit), hcall]
          exact ih (by simp [hend]) (by simp [obeyed, hend]) notify
      | cons word rest =>
          rw [hwords] at hexit
          have hleave : word ≠ exit := fun heq ↦ hexit (heq ▸ List.mem_cons_self)
          rw [obeyed_cons hwords hleave] at hreturns
          obtain ⟨notify', hstep⟩ :=
            runCommand_isSome word (hreturns _ List.mem_cons_self) notify
          rw [loop_cons hwords hleave hstep]
          refine ih ?_ (fun _ h ↦ hreturns _ (List.mem_cons_of_mem _ h)) notify'
          rw [(readCommand_of_words hwords).2]
          exact fun hmem ↦ hexit (List.mem_cons_of_mem _ hmem)

end Monitor

def imports : List String :=
  ["InitializeDriverLibrary", "UninitializeDriverLibrary", "DexTestCommand",
    "DexToggleProcessMonitoring"]

/-- The DLL is there with what `main` looks up in it, its initialization returns, and its
threads end when they are told to. -/
structure Ready (env : Env) (library : Library) : Prop where
  loadLibrary : env.loadLibrary = true
  exports : ∀ name ∈ imports, env.getProcAddress name = true
  init : ∃ status, initializeDriverLibrary env.init loaded = some (status, library)
  joins : env.joins = true

section Main

variable {env : Env} {library : Library}

theorem Ready.main_eq (h : Ready env library) (fuel : ℕ) (input : List Char)
    (notify : ProcNotify) :
    main env fuel input notify =
      match loop env library fuel 0 input notify with
      | .running => .running
      | .sending => .sending
      | .left notify => .returned 0 (uninitializeCommunication library) notify := by
  obtain ⟨status, hinit⟩ := h.init
  have hinitialize := h.exports "InitializeDriverLibrary" (by simp [imports])
  have huninitialize := h.exports "UninitializeDriverLibrary" (by simp [imports])
  have htest := h.exports "DexTestCommand" (by simp [imports])
  have htoggle := h.exports "DexToggleProcessMonitoring" (by simp [imports])
  simp only [main, h.loadLibrary, hinitialize, huninitialize, htest, htoggle, hinit, h.joins,
    Bool.not_true, Bool.false_eq_true, if_false, Bool.true_or, if_true]
  rfl

/-- The port is there once the connect has succeeded, also when the call then fails. -/
theorem Ready.connected_eq (h : Ready env library) :
    library.gDllConnFilterPort.isSome =
      succeeded env.init.filterConnectCommunicationPort := by
  obtain ⟨status, hinit⟩ := h.init
  rcases initializeDriverLibrary_cases hinit with
    ⟨hconnect, rfl⟩ | ⟨hconnect, _, rfl | rfl⟩ | ⟨hconnect, _, rfl⟩ <;> rw [hconnect] <;> rfl

/-- What `UninitializeCommunication` makes of the library: nothing where no thread was
started, and otherwise its globals are reset and what they held is closed. -/
structure ShutDown (library left : Library) : Prop where
  threadless : library.gCommunicationThreads = [] → left = library
  gDllConnFilterPort : library.gCommunicationThreads ≠ [] → left.gDllConnFilterPort = none
  gRequestTerminateDllConnThreads : library.gCommunicationThreads ≠ [] →
    left.gRequestTerminateDllConnThreads = none
  gCommunicationThreads : left.gCommunicationThreads = []
  running : left.running = []
  closed : library.gCommunicationThreads ≠ [] → ∀ h, library.gDllConnFilterPort = some h ∨
    library.gRequestTerminateDllConnThreads = some h → ¬ left.handles.Open h

theorem not_open_release {l : Library} {h : ℕ}
    (hheld : l.gDllConnFilterPort = some h ∨ l.gRequestTerminateDllConnThreads = some h) :
    ¬ (release l).handles.Open h := by
  rcases hheld with hport | hevent
  · rw [release, hport]
    exact Ledger.not_open_close_self _ _
  · rw [release, hevent]
    exact fun hopen ↦ Ledger.not_open_close_self _ _ hopen.of_close

theorem Ready.shutDown (h : Ready env library) :
    ShutDown library (uninitializeCommunication library) := by
  obtain ⟨status, hinit⟩ := h.init
  have hthreadless : library.gCommunicationThreads = [] → library.running = [] →
      ShutDown library (uninitializeCommunication library) := by
    intro hnone hrunning
    have hsame : uninitializeCommunication library = library := by
      simp [uninitializeCommunication, hnone]
    rw [hsame]
    exact ⟨fun _ ↦ rfl, absurd hnone, absurd hnone, hnone, hrunning, absurd hnone⟩
  rcases initializeDriverLibrary_cases hinit with ⟨_, rfl⟩ | ⟨_, _, rfl | rfl⟩ | ⟨_, _, rfl⟩
  · exact hthreadless rfl rfl
  · exact hthreadless rfl rfl
  · exact hthreadless rfl rfl
  · exact ⟨nofun, fun _ ↦ rfl, fun _ ↦ rfl, rfl, rfl, fun _ h hheld ↦ not_open_release hheld⟩

end Main

/-- With the DLL at hand, `main` waits for ever at the first `test` ahead of the word `exit`
whose message is not answered.  Where there is none, it runs for ever unless the word is in
its input, and then returns and leaves the routine as the words ahead of it have it. -/
theorem main_obeys (env : Env) (library : Library) (input : List Char) (registered : Bool)
    (hready : Ready env library) (hremoves : Removes env 0 input) :
    let connected := succeeded env.init.filterConnectCommunicationPort
    ((∃ command ∈ obeyed 0 input, Stuck env library command) →
      ∃ enough, ∀ fuel ≥ enough, main env fuel input (both registered) = .sending) ∧
    ((∀ command ∈ obeyed 0 input, ¬ Stuck env library command) →
      (exit ∉ words input → ∀ fuel, main env fuel input (both registered) = .running) ∧
      (exit ∈ words input → ∃ enough, ∀ fuel ≥ enough, main env fuel input (both registered) =
        .returned 0 (uninitializeCommunication library)
          (both ((obeyed 0 input).foldl (obey env connected) registered)))) ∧
    ShutDown library (uninitializeCommunication library) := by
  rw [← hready.connected_eq]
  refine ⟨fun hstuck ↦ ?_, fun hreturns ↦ ⟨fun hexit fuel ↦ ?_, fun hexit ↦ ?_⟩, hready.shutDown⟩
  · obtain ⟨enough, henough⟩ := loop_of_stuck hstuck (both registered)
    refine ⟨enough, fun fuel hfuel ↦ ?_⟩
    rw [hready.main_eq, henough fuel hfuel]
  · rw [hready.main_eq, loop_of_not_exit hexit hreturns]
  · obtain ⟨enough, henough⟩ := @loop_of_exit env library registered 0 input hexit hremoves hreturns
    refine ⟨enough, fun fuel hfuel ↦ ?_⟩
    rw [hready.main_eq, henough fuel hfuel]

/-- A DLL whose calls all succeed. -/
def obliging : Env where
  loadLibrary := true
  getProcAddress _ := true
  init := ⟨true, sOk, fun _ ↦ ⟨true, true, true, true⟩⟩
  call _ :=
    { (ToggleTruth.enabling statusSuccess).env with send := fun _ ↦ ⟨statusSuccess, []⟩ }
  answers _ := true
  joins := true

/-- Its thread cannot be started, and its port stays connected. -/
def threadless : Env :=
  { obliging with init := ⟨true, sOk, fun _ ↦ ⟨true, true, false, true⟩⟩ }

def testAndExit : List Char := procmonOn ++ ' ' :: test ++ ' ' :: exit

/-- `procmon_on test exit` leaves the routine registered, or never comes to its end. -/
theorem main_testAndExit :
    (∃ library enough, ∀ fuel ≥ enough, main obliging fuel testAndExit (both false) =
      .returned 0 library (both true)) ∧
    ∃ enough, ∀ fuel ≥ enough, main threadless fuel testAndExit (both false) = .sending := by
  constructor
  · have hready : Ready obliging
        (spawn (createThreadEvent true (connected obliging.init loaded))) :=
      ⟨rfl, fun _ _ ↦ rfl, ⟨0, initializeDriverLibrary_starts rfl rfl⟩, rfl⟩
    obtain ⟨_, hreturns, _⟩ := main_obeys obliging _ testAndExit false hready fun _ _ _ ↦ rfl
    obtain ⟨enough, henough⟩ := (hreturns fun _ _ hstuck ↦ by cases hstuck.2).2 (by decide)
    exact ⟨_, enough, henough⟩
  · have hready : Ready threadless (createThreadEvent true (connected threadless.init loaded)) :=
      ⟨rfl, fun _ _ ↦ rfl, ⟨-1, rfl⟩, rfl⟩
    obtain ⟨hstuck, _⟩ := main_obeys threadless _ testAndExit false hready fun _ _ _ ↦ rfl
    exact hstuck ⟨(test, 1), by decide, rfl, rfl⟩

end NtDriver.Console
