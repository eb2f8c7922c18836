import Scaffold.Operation.Perform
import Scaffold.Proofs.Operation.Check
import Scaffold.Proofs.Text.Octets

namespace Scaffold

open Text Log

section Journal

variable {j j' : List Happening}

@[simp]
theorem launches_append : launches (j ++ j') = launches j ++ launches j' := by
  simp [launches]

@[simp]
theorem launches_map_event (es : List Event) : launches (es.map .event) = [] := by
  induction es
  case nil => rfl
  case cons e es ih => exact ih

end Journal

-- The outcome of one launch of `i` on the disk `d`.
structure RunsOnce (tool : Tool) (d : Disk) (operation : Operation) (i : Invocation)
    (o : Outcome Report) : Prop where
  launches : launches o.journal = [i]
  disk : o.disk = (tool i d).disk d
  ok : ∀ report, o.result = .ok report ↔
    ∃ run, tool i d = .ran run ∧ run.ending = .exited 0 ∧ report = ⟨operation, ofOctets run.stdout⟩
  -- A tool that was killed leaves no code.
  failed : ∀ code stdout stderr, o.result = .error (.toolFailed code stdout stderr) ↔
    ∃ run, tool i d = .ran run ∧ run.ending ≠ .exited 0 ∧
      (∀ n, code = some n ↔ run.ending = .exited n) ∧
      stdout = ofOctets run.stdout ∧ stderr = ofOctets run.stderr
  notLaunched : ∀ program message, o.result = .error (.notLaunched program message) ↔
    tool i d = .failed message ∧ program = i.program

variable {tool : Tool} {c : Config} {cwd : Location} {d : Disk} {i : Invocation} {t : Task} {l : Launch}

theorem launches_runTool : launches (runTool tool i d).journal = [i] := by
  show i :: launches ((tool i d).events.map .event) = [i]
  rw [launches_map_event]

namespace Ending

variable {e : Ending}

-- A tool succeeds if it exits with zero. Being killed is no exit.
theorem isSuccess_iff : e.isSuccess = true ↔ e = .exited 0 := by
  cases e <;> simp [isSuccess]

theorem code?_eq_some_iff {n : Int} : e.code? = some n ↔ e = .exited n := by
  cases e <;> simp [code?]

theorem eq_code?_iff {code : Option Int} : code = e.code? ↔ ∀ n, code = some n ↔ e = .exited n := by
  rw [Option.ext_iff]
  simp only [code?_eq_some_iff]

end Ending

namespace Launch

theorem result_ran (run : Run) :
    (ran run).result i =
      if run.ending = .exited 0 then .ok ⟨ofOctets run.stdout, ofOctets run.stderr⟩
      else .error (.toolFailed run.ending.code? (ofOctets run.stdout) (ofOctets run.stderr)) := by
  simp only [result, Ending.isSuccess_iff]

theorem result_eq_ok_iff {out : ToolOutput} :
    l.result i = .ok out ↔ ∃ run, l = .ran run ∧ run.ending = .exited 0 ∧
      out = ⟨ofOctets run.stdout, ofOctets run.stderr⟩ := by
  cases l
  case failed => simp [result]
  case ran run =>
    rw [result_ran]
    by_cases h : run.ending = .exited 0
    case pos => simpa [h] using eq_comm
    case neg => simp [h]

theorem result_eq_error_iff {f : Failure} :
    l.result i = .error f ↔
      (∃ run, l = .ran run ∧ run.ending ≠ .exited 0 ∧
        f = .toolFailed run.ending.code? (ofOctets run.stdout) (ofOctets run.stderr)) ∨
      (∃ message, l = .failed message ∧ f = .notLaunched i.program message) := by
  cases l
  case failed => simpa [result] using eq_comm
  case ran run =>
    rw [result_ran]
    by_cases h : run.ending = .exited 0
    case pos => simp [h]
    case neg => simpa [h] using eq_comm

end Launch

namespace Task

-- What a task has its tool do, and how success is reported.
inductive Orders (c : Config) : Task → Operation → Invocation → Prop
  | create {service : String} {fs : List Field} :
      Orders c (.create service fs) (.create service) ⟨c.codegen, [service, Field.textAll fs], c.root⟩
  | addRpc {rpc : Rpc} :
      Orders c (.addRpc rpc) (.addRpc rpc.service rpc.name) ⟨c.codegen, rpc.arguments, c.root⟩
  | remove {service : String} :
      Orders c (.remove service) (.remove service) ⟨c.codegen, ["remove", service], c.root⟩
  | regenerate : Orders c .regenerate .regenerate ⟨c.buildTool, [c.buildTarget], c.root⟩

theorem orders_invocation (c : Config) (t : Task) : t.Orders c t.operation (t.invocation c) := by
  cases t <;> constructor

theorem result_perform_eq_ok_iff {report : Report} :
    (t.perform tool c d).result = .ok report ↔
      ∃ out, (tool (t.invocation c) d).result (t.invocation c) = .ok out ∧
        report = ⟨t.operation, out.stdout⟩ := by
  simp only [perform, runTool]
  cases (tool (t.invocation c) d).result (t.invocation c) <;> simp [Except.map, eq_comm]

theorem result_perform_eq_error_iff {f : Failure} :
    (t.perform tool c d).result = .error f ↔
      (tool (t.invocation c) d).result (t.invocation c) = .error f := by
  simp only [perform, runTool]
  cases (tool (t.invocation c) d).result (t.invocation c) <;> simp [Except.map]

theorem launches_perform : launches (t.perform tool c d).journal = [t.invocation c] := by
  simp only [perform, launches_append, launches_map_event, launches_runTool]
  split <;> simp [launches]

theorem runsOnce_perform (tool : Tool) (c : Config) (d : Disk) (t : Task) :
    RunsOnce tool d t.operation (t.invocation c) (t.perform tool c d) where
  launches := launches_perform
  disk := rfl
  ok report := by
    simp only [result_perform_eq_ok_iff, Launch.result_eq_ok_iff]
    constructor
    case mp =>
      rintro ⟨_, ⟨run, hl, he, rfl⟩, rfl⟩
      exact ⟨run, hl, he, rfl⟩
    case mpr =>
      rintro ⟨run, hl, he, rfl⟩
      exact ⟨_, ⟨run, hl, he, rfl⟩, rfl⟩
  failed code stdout stderr := by
    rw [result_perform_eq_error_iff, Launch.result_eq_error_iff]
    simp [Ending.eq_code?_iff]
  notLaunched program message := by
    rw [result_perform_eq_error_iff, Launch.result_eq_error_iff]
    simp [and_comm]

-- What a tool does is no refusal.
theorem not_isRefusal_of_perform {e : Failure} (h : (t.perform tool c d).result = .error e) :
    e.isRefusal = false := by
  rw [result_perform_eq_error_iff, Launch.result_eq_error_iff] at h
  obtain ⟨_, -, -, rfl⟩ | ⟨_, -, rfl⟩ := h <;> rfl

end Task

namespace Request

variable {r : Request} {e : Failure}

-- The stems that the check of a request is given.
def stems (c : Config) (cwd : Location) (d : Disk) : List String :=
  (Inventory.list c cwd d).services.map ArtifactSet.stem

theorem perform_of_refused (tool : Tool) (h : Refused c (stems c cwd d) r e) :
    (r.perform tool c cwd d).result = .error e ∧ launches (r.perform tool c cwd d).journal = [] ∧
      (r.perform tool c cwd d).disk = d := by
  have h := check_of_refused h
  unfold stems at h
  simp only [perform, h, true_and, and_true]
  split <;> simp [launches]

-- Listing the services launches nothing.
theorem perform_of_readAs (tool : Tool) (h : ReadAs c (stems c cwd d) r t) :
    (r.perform tool c cwd d).result = (t.perform tool c d).result ∧
      launches (r.perform tool c cwd d).journal = launches (t.perform tool c d).journal ∧
      (r.perform tool c cwd d).disk = (t.perform tool c d).disk := by
  have h := check_of_readAs h
  unfold stems at h
  simp only [perform, h, launches_append, true_and, and_true]
  split <;> simp [launches]

theorem runsOnce_of_readAs (tool : Tool) (h : ReadAs c (stems c cwd d) r t) :
    RunsOnce tool d t.operation (t.invocation c) (r.perform tool c cwd d) := by
  obtain ⟨hr, hl, hd⟩ := perform_of_readAs tool h
  have ho := t.runsOnce_perform tool c d
  exact ⟨hl ▸ ho.launches, hd ▸ ho.disk, hr ▸ ho.ok, hr ▸ ho.failed, hr ▸ ho.notLaunched⟩

theorem result_perform_eq_refusal_iff (tool : Tool) (he : e.isRefusal = true) :
    (r.perform tool c cwd d).result = .error e ↔ Refused c (stems c cwd d) r e := by
  refine ⟨fun h => ?_, fun h => (perform_of_refused tool h).1⟩
  obtain ⟨t, ht⟩ | ⟨e', he'⟩ := exists_readAs_or_refused c (stems c cwd d) r
  case inl =>
    have hn := Task.not_isRefusal_of_perform <| (perform_of_readAs tool ht).1.symm.trans h
    rw [he] at hn
    contradiction
  case inr =>
    cases h.symm.trans (perform_of_refused tool he').1
    exact he'

theorem refuses_or_runs_once (tool : Tool) (c : Config) (cwd : Location) (d : Disk) (r : Request) :
    (∀ e, e.isRefusal = true →
      ((r.perform tool c cwd d).result = .error e ↔ Refused c (stems c cwd d) r e)) ∧
    (∀ e, Refused c (stems c cwd d) r e →
      launches (r.perform tool c cwd d).journal = [] ∧ (r.perform tool c cwd d).disk = d) ∧
    ((¬∃ e, Refused c (stems c cwd d) r e) →
      ∃ t operation i, ReadAs c (stems c cwd d) r t ∧ t.Orders c operation i ∧
        RunsOnce tool d operation i (r.perform tool c cwd d)) ∧
    (∀ s, ofOctets (octets s) = s) := by
  refine ⟨fun e he => result_perform_eq_refusal_iff tool he, fun e h => (perform_of_refused tool h).2,
    fun h => ?_, ofOctets_octets⟩
  obtain ⟨t, ht⟩ := (exists_readAs_or_refused c (stems c cwd d) r).resolve_right h
  exact ⟨t, _, _, ht, t.orders_invocation c, runsOnce_of_readAs tool ht⟩

-- A generator that gives up halfway. Its own code and both of its streams are what is reported.
theorem refuses_or_runs_once_half_done :
    (perform (fun _ d => .ran ⟨.exited 3, octets "half", octets "in use", d⟩) (.ofRoot "/" "/p") []
        (.create "Shelf" "name:string") .empty).result =
      .error (.toolFailed (some 3) "half" "in use") := by
  obtain ⟨-, -, hr, hs⟩ := refuses_or_runs_once (fun _ d => .ran ⟨.exited 3, octets "half", octets "in use", d⟩)
    (.ofRoot "/" "/p") [] .empty (.create "Shelf" "name:string")
  have hc : check (.ofRoot "/" "/p") (stems (.ofRoot "/" "/p") [] .empty) (.create "Shelf" "name:string") =
      .ok (.create "Shelf" [⟨"name", .primitive .string, false⟩]) := by decide +kernel
  have hn : ¬∃ e, Refused (.ofRoot "/" "/p") (stems (.ofRoot "/" "/p") [] .empty)
      (.create "Shelf" "name:string") e := by
    rintro ⟨e, he⟩
    cases hc.symm.trans <| check_of_refused he
  obtain ⟨_, _, _, -, -, ho⟩ := hr hn
  exact (ho.failed _ _ _).mpr ⟨_, rfl, by simp, by simp, (hs "half").symm, (hs "in use").symm⟩

end Request
end Scaffold
