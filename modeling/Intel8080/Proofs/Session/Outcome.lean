import Intel8080.Proofs.Features.Extension
import Intel8080.Proofs.Machine.Load
import Intel8080.Proofs.RegisterDump.Plain
import Intel8080.Proofs.Run.Report
import Intel8080.Session.Run

/-! How running an image file ends. A file that cannot be read, an image without room and a fault
are errors, each reported as itself, and every other end is a success. An image that was loaded
leaves one dump at the end of the output, of the registers as the run left them. Main statement:
`run_outcome`. -/
namespace Intel8080.RunOptions

def start (o : RunOptions) (image : List Byte) : Machine Unconnected :=
  ((Machine.ofPorts Unconnected.mk).loaded image o.base).withFeatures o.features

/-- The run of the machine on its own, with the limit if there is one. -/
def emulated (o : RunOptions) (image : List Byte) :
    Except Fault StopReason × Machine Unconnected :=
  match o.limit? with
  | some limit => (o.start image).runLimit limit
  | none => (o.start image).run

/-- The file holds an image that has room in memory from the base on. -/
def Loads (o : RunOptions) (file : Except ReadFailure (List Byte)) (image : List Byte) : Prop :=
  file = .ok image ∧ image.length ≤ 65536 - o.base.toNat

theorem loads_ok_iff {o : RunOptions} {image other : List Byte} :
    o.Loads (.ok image) other ↔ other = image ∧ image.length ≤ 65536 - o.base.toNat := by
  rw [Loads, Except.ok.injEq]
  constructor <;> rintro ⟨rfl, small⟩ <;> exact ⟨rfl, small⟩

theorem not_loads_error {o : RunOptions} {failure : ReadFailure} {image : List Byte} :
    ¬o.Loads (.error failure) image := by
  rintro ⟨read, -⟩
  cases read

theorem emulated_eq (o : RunOptions) (image : List Byte) :
    o.emulated image = (o.start image).runLimit o.limit := by
  unfold emulated limit
  cases o.limit? <;> rfl

theorem machine_eq (o : RunOptions) (image : List Byte) :
    o.machine image =
      if Memory.Fits o.base image then .ok (o.start image) else .error ⟨o.base, image.length⟩ := by
  rw [machine, Machine.ofImage, Machine.load_eq]
  split <;> rfl

theorem steps_emulated (o : RunOptions) (image : List Byte) :
    (o.emulated image).2.steps = (o.start image).executed o.limit := by
  have fresh : (o.start image).steps = 0 := rfl
  rw [emulated_eq, Machine.steps_runLimit, fresh, Nat.zero_add]

theorem runMachine_start (o : RunOptions) (colors : Bool) (kept : Log.Level) (image : List Byte) :
    let report := o.runMachine colors kept (o.start image)
    report.result = (match (o.emulated image).1 with
      | .ok _ => .ok ()
      | .error f => .error (.fault f)) ∧
    report.output =
      o.endingLine colors (o.emulated image).1 ((o.start image).executed o.limit) ++
        RegisterDump.text o.minimal (o.emulated image).2.processor := by
  rw [← steps_emulated, emulated_eq, ← Machine.watch_fst kept o.limit #[]]
  exact ⟨rfl, rfl⟩

/-! The three ways that a run can go: no file, no room, and a machine that runs. -/

section Ways
variable (o : RunOptions) (colors : Bool) (kept : Log.Level)

theorem run_of_error (failure : ReadFailure) :
    (o.run colors kept (.error failure)).result = .error (.unreadable ⟨o.path, failure⟩) ∧
    (o.run colors kept (.error failure)).output = o.loadingLine colors := ⟨rfl, rfl⟩

theorem run_of_lt {image : List Byte} (large : 65536 - o.base.toNat < image.length) :
    (o.run colors kept (.ok image)).result = .error (.tooLarge ⟨o.base, image.length⟩) ∧
    (o.run colors kept (.ok image)).output = o.loadingLine colors := by
  have room : ¬Memory.Fits o.base image := by
    rw [Memory.fits_iff]
    omega
  simp [run, machine_eq, room]

theorem run_of_le {image : List Byte} (small : image.length ≤ 65536 - o.base.toNat) :
    (o.run colors kept (.ok image)).result = (match (o.emulated image).1 with
      | .ok _ => .ok ()
      | .error f => .error (.fault f)) ∧
    (o.run colors kept (.ok image)).output =
      o.loadingLine colors ++ o.runningLine colors image ++
        o.endingLine colors (o.emulated image).1 ((o.start image).executed o.limit) ++
        RegisterDump.text o.minimal (o.emulated image).2.processor := by
  have base := o.base.isLt
  have fits : Memory.Fits o.base image := by
    rw [Memory.fits_iff]
    omega
  obtain ⟨result, output⟩ := o.runMachine_start colors kept image
  simp only [run, machine_eq, if_pos fits]
  refine ⟨result, ?_⟩
  simp only [output, String.append_assoc]

end Ways

/-- The line that ends a run, with the verb at the right of twelve columns and its colour around
it. -/
def told (colors : Bool) (color verb : String) (n : Nat) : String :=
  (if colors then "\x1b[1;" ++ color ++ "m" ++ verb ++ "\x1b[0m" else verb) ++
    " after " ++ toString n ++ (if n = 1 then " instruction\n" else " instructions\n")

theorem status_eq_told {o : RunOptions} (full : o.minimal = false) {colors : Bool}
    {p : Terminal.Paint} {verb color padded : String}
    (painted : Terminal.paint colors p 12 verb =
      if colors then "\x1b[1;" ++ color ++ "m" ++ padded ++ "\x1b[0m" else padded) (n : Nat) :
    o.status colors p verb (stepCount n) = told colors color padded n := by
  have count : " " ++ stepCount n ++ "\n" =
      " after " ++ toString n ++ (if n = 1 then " instruction\n" else " instructions\n") := by
    unfold stepCount
    split
    · next one => rw [one]; decide
    · simp only [String.append_assoc]
      rfl
  rw [status, full, if_neg Bool.false_ne_true, Terminal.statusLine, painted, told]
  simp only [String.append_assoc] at count ⊢
  rw [count]

theorem endingLine_eq_told {o : RunOptions} (full : o.minimal = false) (colors : Bool) (n : Nat) :
    o.endingLine colors (.ok .halted) n = told colors "32" "      Halted" n ∧
    o.endingLine colors (.ok .endOfProgram) n = told colors "32" "   Completed" n ∧
    ∀ f, o.endingLine colors (.error f) n = told colors "31" "     Faulted" n :=
  ⟨status_eq_told full (by cases colors <;> decide) n,
    status_eq_told full (by cases colors <;> decide) n,
    fun _ => status_eq_told full (by cases colors <;> decide) n⟩

theorem status_of_minimal {o : RunOptions} (h : o.minimal = true) (colors : Bool)
    (p : Terminal.Paint) (verb detail : String) : o.status colors p verb detail = "" := if_pos h

theorem endingLine_of_minimal {o : RunOptions} (h : o.minimal = true) (colors : Bool)
    (r : Except Fault StopReason) (n : Nat) : o.endingLine colors r n = "" := by
  unfold endingLine
  split <;> exact status_of_minimal h _ _ _ _

theorem result_run (o : RunOptions) (colors : Bool) (kept : Log.Level)
    (file : Except ReadFailure (List Byte)) :
    let result := (o.run colors kept file).result
    (∀ e, result = .error (.unreadable e) ↔
      ∃ failure, file = .error failure ∧ e = ⟨o.path, failure⟩) ∧
    (∀ e, result = .error (.tooLarge e) ↔
      ∃ image, file = .ok image ∧ 65536 - o.base.toNat < image.length ∧
        e = ⟨o.base, image.length⟩) ∧
    (∀ f, result = .error (.fault f) ↔
      ∃ image, o.Loads file image ∧ (o.emulated image).1 = .error f) ∧
    (result = .ok () ↔
      ∃ image, o.Loads file image ∧ ∃ reason, (o.emulated image).1 = .ok reason) := by
  rcases file with failure | image
  · obtain ⟨unreadable, -⟩ := o.run_of_error colors kept failure
    simp [unreadable, not_loads_error, eq_comm]
  · rcases Nat.lt_or_ge (65536 - o.base.toNat) image.length with large | small
    · obtain ⟨tooLarge, -⟩ := o.run_of_lt colors kept large
      simp [tooLarge, loads_ok_iff, large, Nat.not_le.mpr large, eq_comm]
    · obtain ⟨ended, -⟩ := o.run_of_le colors kept small
      cases h : (o.emulated image).1 <;> simp [ended, h, loads_ok_iff, small, Nat.not_lt.mpr small]

theorem output_of_loads {o : RunOptions} {file : Except ReadFailure (List Byte)}
    {image : List Byte} (h : o.Loads file image) (colors : Bool) (kept : Log.Level) :
    (o.run colors kept file).output =
      o.loadingLine colors ++ o.runningLine colors image ++
        o.endingLine colors (o.emulated image).1 ((o.start image).executed o.limit) ++
        RegisterDump.text o.minimal (o.emulated image).2.processor := by
  obtain ⟨rfl, small⟩ := h
  exact (o.run_of_le colors kept small).2

theorem output_of_not_loads {o : RunOptions} {file : Except ReadFailure (List Byte)}
    (h : ∀ image, ¬o.Loads file image) (colors : Bool) (kept : Log.Level) :
    (o.run colors kept file).output = o.loadingLine colors := by
  rcases file with failure | image
  · exact (o.run_of_error colors kept failure).2
  · have large : 65536 - o.base.toNat < image.length :=
      Nat.lt_of_not_le fun small => h image ⟨rfl, small⟩
    exact (o.run_of_lt colors kept large).2

theorem output_of_minimal {o : RunOptions} (minimal : o.minimal = true) (colors : Bool)
    (kept : Log.Level) (file : Except ReadFailure (List Byte)) :
    (∀ image, o.Loads file image → (o.run colors kept file).output =
      RegisterDump.written (o.emulated image).2.processor) ∧
    ((∀ image, ¬o.Loads file image) → (o.run colors kept file).output = "") := by
  have loading : o.loadingLine colors = "" := status_of_minimal minimal _ _ _ _
  refine ⟨fun image h => ?_, fun h => ?_⟩
  · have running : o.runningLine colors image = "" := status_of_minimal minimal _ _ _ _
    rw [output_of_loads h, loading, running, endingLine_of_minimal minimal, minimal,
      RegisterDump.text_true]
    simp
  · rw [output_of_not_loads h, loading]

theorem escape_not_mem_output {o : RunOptions} (minimal : o.minimal = true) (colors : Bool)
    (kept : Log.Level) (file : Except ReadFailure (List Byte)) :
    '\x1b' ∉ (o.run colors kept file).output.toList := by
  obtain ⟨dump, nothing⟩ := output_of_minimal minimal colors kept file
  by_cases h : ∃ image, o.Loads file image
  · obtain ⟨image, h⟩ := h
    rw [dump image h, ← RegisterDump.text_true]
    exact RegisterDump.escape_not_mem_text_true _
  · rw [nothing fun image hi => h ⟨image, hi⟩]
    exact List.not_mem_nil

/-- An image file is read, loaded and run, and each thing that can go wrong is reported as itself:
that the file could not be read, that its image has no room, or the fault of the machine. A
machine that halts, leaves its program or reaches the limit is none of these. If the image was
loaded, also if the machine faults, the output ends with the one dump of the registers as the run
left them, and otherwise it has none. A minimal output is the dump alone, in lines of a name and a
value without escape sequences; any other tells in a line how many instructions were executed,
unless the limit ended the run. -/
theorem run_outcome (o : RunOptions) (colors : Bool) (kept : Log.Level)
    (file : Except ReadFailure (List Byte)) :
    let report := o.run colors kept file
    ((∀ e, report.result = .error (.unreadable e) ↔
        ∃ failure, file = .error failure ∧ e = ⟨o.path, failure⟩) ∧
      (∀ e, report.result = .error (.tooLarge e) ↔
        ∃ image, file = .ok image ∧ 65536 - o.base.toNat < image.length ∧
          e = ⟨o.base, image.length⟩) ∧
      (∀ f, report.result = .error (.fault f) ↔
        ∃ image, o.Loads file image ∧ (o.emulated image).1 = .error f) ∧
      (report.result = .ok () ↔
        ∃ image, o.Loads file image ∧ ∃ reason, (o.emulated image).1 = .ok reason)) ∧
    (∀ image, o.Loads file image →
      let last := (o.emulated image).2
      report.output = o.loadingLine colors ++ o.runningLine colors image ++
        o.endingLine colors (o.emulated image).1 ((o.start image).executed o.limit) ++
        RegisterDump.text o.minimal last.processor) ∧
    ((∀ image, ¬o.Loads file image) → report.output = o.loadingLine colors) ∧
    (o.minimal = true → '\x1b' ∉ report.output.toList ∧
      (∀ image, o.Loads file image →
        report.output = RegisterDump.written (o.emulated image).2.processor) ∧
      ((∀ image, ¬o.Loads file image) → report.output = "")) ∧
    (o.minimal = false → ∀ n,
      o.endingLine colors (.ok .halted) n = told colors "32" "      Halted" n ∧
      o.endingLine colors (.ok .endOfProgram) n = told colors "32" "   Completed" n ∧
      ∀ f, o.endingLine colors (.error f) n = told colors "31" "     Faulted" n) := by
  intro report
  refine ⟨o.result_run colors kept file, fun image h => output_of_loads h colors kept,
    fun h => output_of_not_loads h colors kept, fun minimal => ?_,
    fun full => endingLine_eq_told full colors⟩
  exact ⟨escape_not_mem_output minimal colors kept file,
    output_of_minimal minimal colors kept file⟩

def atTop : RunOptions := { path := "top.bin", base := 0xFFFD, limit? := some 2 }

def bareBase : RunOptions := { path := "base.bin", features := .minimal, minimal := true }

/-- `MVI A,9CH`, and what stands behind it. -/
theorem step_start (o : RunOptions) (code : Byte)
    (fits : Memory.Fits o.base [0x3E, 0x9C, code]) :
    let m := o.start [0x3E, 0x9C, code]
    m.step = { m with processor := { m.processor with a := 0x9C, pc := o.base + 2 }, steps := 1 } ∧
    m.step.opcode = .decode code := by
  intro m
  have carries : m.processor.memory.Carries o.base [0x3E, 0x9C, code] :=
    Memory.carries_writeBytes Memory.zero fits
  have first : m.processor.memory.read o.base = 0x3E := by simpa using carries 0 0x3E rfl
  have operand : m.processor.memory.readWord (o.base + 1) = .ofBytes code 0x9C := by
    have low := carries 1 0x9C rfl
    have high := carries 2 code rfl
    rw [← add_one_add_ofNat] at high
    rw [Memory.readWord, ← low, ← high]
    rfl
  have inside : Machine.reachesTop o.base 2 = false := by
    have small := Memory.fits_iff.mp fits
    rw [Machine.reachesTop, decide_eq_false_iff_not]
    simp only [List.length_cons, List.length_nil] at small
    omega
  have step : m.step =
      { m with processor := { m.processor with a := 0x9C, pc := o.base + 2 }, steps := 1 } := by
    refine Machine.step_eq_of_read o.base 0x3E _ rfl rfl rfl first operand ?_
    have mvi : (Opcode.decode 0x3E).instruction = .mvi .a := rfl
    have two : (Instruction.mvi .a).length = 2 := rfl
    simp only [mvi, Machine.executeAt, two, inside, Machine.perform, Processor.execute,
      Word.lo_ofBytes]
    rfl
  refine ⟨step, Machine.opcode_of_read ?_⟩
  rw [step]
  exact carries 2 code rfl

theorem emulated_of_two_steps {o : RunOptions} {image : List Byte} {rest : Nat}
    {r : Except Fault StopReason} (room : o.limit = rest + 2)
    (begins : (o.start image).outcome? = none) (goesOn : (o.start image).step.outcome? = none)
    (ends : (o.start image).step.step.outcome? = some r) :
    o.emulated image = (r, (o.start image).step.step) := by
  rw [emulated_eq, room, Machine.runLimit_succ_of_none begins, Machine.runLimit_succ_of_none goesOn,
    Machine.runLimit_of_outcome ends]

theorem emulated_atTop :
    let m := atTop.start [0x3E, 0x9C, 0x76]
    let ended := atTop.emulated [0x3E, 0x9C, 0x76]
    ended.1 = .ok .halted ∧ ended.2.processor = { m.processor with a := 0x9C, pc := 0 } ∧
      m.executed atTop.limit = 2 := by
  intro m ended
  obtain ⟨step, code⟩ := step_start atTop 0x76 (by decide)
  have goesOn : m.step.outcome? = none := by rw [step]; rfl
  have hlt : m.step.opcode.instruction = .hlt := by rw [code]; rfl
  have halts : m.step.Executes := Machine.executes_of_isBasic (by rw [step]; rfl) (by rw [hlt]; rfl)
  have last : m.step.step = { m with
      processor := { m.processor with a := 0x9C, pc := 0 }
      status := .halted
      wrapped := true
      steps := 2 } := by
    rw [Machine.step_of_executes halts, Machine.execute, code, step]
    rfl
  have run : ended = (.ok .halted, m.step.step) :=
    emulated_of_two_steps rfl rfl goesOn (by rw [last]; rfl)
  refine ⟨by rw [run], by rw [run, last], ?_⟩
  rw [← steps_emulated, show atTop.emulated [0x3E, 0x9C, 0x76] = _ from run, last]

theorem emulated_bareBase :
    let m := bareBase.start [0x3E, 0x9C, 0xFB]
    let ended := bareBase.emulated [0x3E, 0x9C, 0xFB]
    ended.1 = .error ⟨2, 0xFB, "EI"⟩ ∧
      ended.2.processor = { m.processor with a := 0x9C, pc := 2 } := by
  intro m ended
  obtain ⟨step, code⟩ := step_start bareBase 0xFB (by decide)
  have goesOn : m.step.outcome? = none := by rw [step]; rfl
  have lacks : m.step.features.enables m.step.opcode.group = false := by rw [code, step]; rfl
  have fault : m.step.fault = ⟨2, 0xFB, "EI"⟩ := by rw [Machine.fault, code, step]; rfl
  have last : m.step.step = { m.step with status := .faulted ⟨2, 0xFB, "EI"⟩ } := by
    rw [Machine.step_of_faults ⟨by rw [step]; rfl, lacks⟩, fault]
  have run : ended = (.error ⟨2, 0xFB, "EI"⟩, m.step.step) :=
    emulated_of_two_steps rfl rfl goesOn (by rw [last]; rfl)
  exact ⟨by rw [run], by rw [run, last, step]; rfl⟩

/-- The image has two instructions: the second one ends the run, by halting or, where the machine
lacks its group, by a fault. A fourth byte has no room. -/
theorem atTop_outcome :
    let halted := atTop.run false .warn (.ok [0x3E, 0x9C, 0x76])
    let faulted := bareBase.run false .warn (.ok [0x3E, 0x9C, 0xFB])
    let missing := bareBase.run false .warn (.error .missing)
    halted.result = .ok () ∧
    halted.output =
      "     Loading target top.bin\n" ++
      "     Running 3 bytes at 0xfffd with features [io,interrupt,restart,decimal,undocumented]\n" ++
      "      Halted after 2 instructions\n" ++
      "\x1b[2m┌──────────────────────────────────┐\x1b[0m\n" ++
      "\x1b[2m│      \x1b[3mhex   uint   int   char\x1b[0m\x1b[2m     │\x1b[0m\n" ++
      "\x1b[2m│\x1b[0m \x1b[1mA\x1b[0m   0x9c   156  -100   \x1b[2m┄┄┄\x1b[0m   \x1b[2m│\x1b[0m\n" ++
      "\x1b[2m│\x1b[0m \x1b[1mB\x1b[0m   0x00     0     0   NUL   \x1b[2m│\x1b[0m\n" ++
      "\x1b[2m│\x1b[0m \x1b[1mC\x1b[0m   0x00     0     0   NUL   \x1b[2m│\x1b[0m\n" ++
      "\x1b[2m│\x1b[0m \x1b[1mD\x1b[0m   0x00     0     0   NUL   \x1b[2m│\x1b[0m\n" ++
      "\x1b[2m│\x1b[0m \x1b[1mE\x1b[0m   0x00     0     0   NUL   \x1b[2m│\x1b[0m\n" ++
      "\x1b[2m│\x1b[0m \x1b[1mH\x1b[0m   0x00     0     0   NUL   \x1b[2m│\x1b[0m\n" ++
      "\x1b[2m│\x1b[0m \x1b[1mL\x1b[0m   0x00     0     0   NUL   \x1b[2m│\x1b[0m\n" ++
      "\x1b[2m│\x1b[0m \x1b[1mBC\x1b[0m 0000 \x1b[1mDE\x1b[0m 0000 \x1b[1mHL\x1b[0m 0000      " ++
        "\x1b[2m│\x1b[0m\n" ++
      "\x1b[2m│\x1b[0m \x1b[1mPC\x1b[0m 0000 \x1b[1mSP\x1b[0m 0000 \x1b[1mIE\x1b[0m 0         " ++
        "\x1b[2m│\x1b[0m\n" ++
      "\x1b[2m│\x1b[0m \x1b[2ms\x1b[0m \x1b[2mz\x1b[0m \x1b[2mac\x1b[0m \x1b[2mp\x1b[0m " ++
        "\x1b[2mcy\x1b[0m                      \x1b[2m│\x1b[0m\n" ++
      "\x1b[2m└──────────────────────────────────┘\x1b[0m\n" ∧
    (atTop.run false .warn (.ok [0x3E, 0x9C, 0x76, 0])).result = .error (.tooLarge ⟨0xFFFD, 4⟩) ∧
    missing.result = .error (.unreadable ⟨"base.bin", .missing⟩) ∧
    missing.output = "" ∧
    faulted.result = .error (.fault ⟨2, 0xFB, "EI"⟩) ∧
    faulted.output =
      "A 0x9c\nB 0x00\nC 0x00\nD 0x00\nE 0x00\nH 0x00\nL 0x00\nPC 0x0002\nSP 0x0000\n" ++
      "FLAGS S=0 Z=0 AC=0 P=0 CY=0\nIE 0\n" ∧
    '\x1b' ∉ faulted.output.toList := by
  intro halted faulted missing
  obtain ⟨halts, stays, twice⟩ := emulated_atTop
  obtain ⟨faults, left⟩ := emulated_bareBase
  have top : atTop.Loads (.ok [0x3E, 0x9C, 0x76]) [0x3E, 0x9C, 0x76] := ⟨rfl, by decide⟩
  have bare : bareBase.Loads (.ok [0x3E, 0x9C, 0xFB]) [0x3E, 0x9C, 0xFB] := ⟨rfl, by decide⟩
  obtain ⟨⟨-, -, -, good⟩, dump, -, -, lines⟩ :=
    run_outcome atTop false .warn (.ok [0x3E, 0x9C, 0x76])
  obtain ⟨⟨-, large, -⟩, -⟩ := run_outcome atTop false .warn (.ok [0x3E, 0x9C, 0x76, 0])
  obtain ⟨⟨unreadable, -⟩, -, -, none, -⟩ := run_outcome bareBase false .warn (.error .missing)
  obtain ⟨⟨-, -, fault, -⟩, -, -, minimal, -⟩ :=
    run_outcome bareBase false .warn (.ok [0x3E, 0x9C, 0xFB])
  obtain ⟨plain, alone, -⟩ := minimal rfl
  obtain ⟨-, -, nothing⟩ := none rfl
  obtain ⟨told, -⟩ := lines rfl 2
  refine ⟨good.mpr ⟨_, top, .halted, halts⟩, ?_, (large _).mpr ⟨_, rfl, by decide, rfl⟩,
    (unreadable _).mpr ⟨_, rfl, rfl⟩, nothing fun _ => not_loads_error,
    (fault _).mpr ⟨_, bare, faults⟩, ?_, plain⟩
  · rw [dump _ top, halts, twice, told, stays]
    decide +kernel
  · rw [alone _ bare, left]
    decide

end Intel8080.RunOptions
