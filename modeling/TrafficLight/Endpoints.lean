import Mathlib.Data.Fintype.Card
import TrafficLight.Decimal
import TrafficLight.EndpointFlags
import TrafficLight.NameTable

/-!
The command line of Central and the endpoints that come of it, from `main`. A Local may
be given a service of its own name; the others keep the names under which the launcher
publishes them. The names that were given are not kept by the source, only that they
were.
-/

namespace TrafficLight.Endpoints

open TrafficLight.Decimal
open TrafficLight.CommandQueue
open TrafficLight.EndpointFlags
open TrafficLight.NameTable

abbrev Name := List UInt8

def maxPeers : Nat := 8

def localServicePrefix : Name :=
  ascii ['t', 'r', 'a', 'f', 'f', 'i', 'c', '_', 'l', 'o', 'c', 'a', 'l', '_', 'I']

def trainService : Name :=
  ascii ['t', 'r', 'a', 'f', 'f', 'i', 'c', '_', 't', 'r', 'a', 'i', 'n', '_', 'c', 'o', 'n', 't',
    'r', 'o', 'l', 'l', 'e', 'r']

/-- The name of a Local that was given none. -/
def defaultName (i : Fin 6) : Name := localServicePrefix ++ [digit (i.val + 1)]

/-- What `main` has read so far. -/
structure Options where
  global : Bool
  headless : Bool
  schedulePath : Option Name
  logPath : Name
  statusAge : Nat
  services : List Name
  route : Fin 6 → Nat
  given : Fin 6 → Option Name

def optionsStart : Options :=
  { global := false
    headless := false
    schedulePath := none
    logPath := ascii ['/', 't', 'm', 'p', '/', 'c', 'e', 'n', 't', 'r', 'a', 'l', '_', 'c', 'o',
      'n', 't', 'r', 'o', 'l', 'l', 'e', 'r', '.', 'l', 'o', 'g']
    statusAge := 5
    services := [defaultName 0, trainService]
    route := fun _ => 0
    given := fun _ => none }

inductive OptionError
  | malformedEndpoint
  | duplicateEndpoint
  | endpointName
  | statusAge
  | unknown

inductive Outcome
  | help
  | failed (error : OptionError)
  | run (o : Options)

def nameChar (c : UInt8) : Bool :=
  (97 ≤ c ∧ c ≤ 122) ∨ (65 ≤ c ∧ c ≤ 90) ∨ (48 ≤ c ∧ c ≤ 57) ∨ c = 95 ∨ c = 45 ∨ c = 46

/-- The argument of `--local-endpoint`. -/
def localEndpoint (o : Options) (mapping : Name) : Except OptionError Options :=
  match mapping with
  | letter :: number :: sign :: service =>
      if h : letter = 73 ∧ 49 ≤ number ∧ number ≤ 54 ∧ sign = 61 ∧ service ≠ [] then
        let target : Fin 6 := ⟨(number - 49).toNat, by
          obtain ⟨-, hlow, hhigh, -⟩ := h
          rw [UInt8.le_iff_toNat_le] at hlow hhigh
          rw [UInt8.toNat_sub_of_le _ _ (UInt8.le_iff_toNat_le.mpr hlow)]
          have hone : (49 : UInt8).toNat = 49 := rfl
          have hsix : (54 : UInt8).toNat = 54 := rfl
          omega⟩
        if (o.given target).isSome ∨ service.length > 100 ∨ service = trainService then
          .error .duplicateEndpoint
        else if service.all nameChar = false then .error .endpointName
        else
          let (services, peer) := register o.services service
          .ok { o with
            services
            route := Function.update o.route target peer
            given := Function.update o.given target (some service) }
      else .error .malformedEndpoint
  | _ => .error .malformedEndpoint

/-- The argument of `-s`. -/
def statusAgeOf (value : Name) : Option Nat :=
  if value = [] then none
  else (readBounded 60 0 value).filter fun seconds => 1 ≤ seconds

/-- The option whose argument comes next. -/
inductive Pending
  | none
  | schedule
  | endpoint
  | log
  | age

/-- The loop over the arguments. -/
def parseOptions : Options → Pending → List Name → Outcome
  | o, .none, [] => .run o
  | _, _, [] => .failed .unknown
  | o, .schedule, path :: rest => parseOptions { o with schedulePath := some path } .none rest
  | o, .log, path :: rest => parseOptions { o with logPath := path } .none rest
  | o, .endpoint, mapping :: rest =>
      match localEndpoint o mapping with
      | .error error => .failed error
      | .ok o => parseOptions o .none rest
  | o, .age, value :: rest =>
      match statusAgeOf value with
      | none => .failed .statusAge
      | some statusAge => parseOptions { o with statusAge } .none rest
  | o, .none, arg :: rest =>
      if arg = ascii ['-', 'h'] ∨ arg = ascii ['-', '-', 'h', 'e', 'l', 'p'] then .help
      else if arg = ascii ['-', 'l'] then parseOptions { o with global := false } .none rest
      else if arg = ascii ['-', 'g'] then parseOptions { o with global := true } .none rest
      else if arg = ascii ['-', '-', 'h', 'e', 'a', 'd', 'l', 'e', 's', 's'] then
        parseOptions { o with headless := true } .none rest
      else if arg = ascii ['-', '-', 's', 'c', 'h', 'e', 'd', 'u', 'l', 'e'] then
        parseOptions o .schedule rest
      else if arg = ascii ['-', '-', 'l', 'o', 'c', 'a', 'l', '-', 'e', 'n', 'd', 'p', 'o', 'i',
          'n', 't'] then
        parseOptions o .endpoint rest
      else if arg = ascii ['-', 'o'] then parseOptions o .log rest
      else if arg = ascii ['-', 's'] then parseOptions o .age rest
      else .failed .unknown

/-- A Local without a name of its own is looked for under the one of the launcher. -/
def defaultEndpoint (o : Options) (i : Fin 6) : Options :=
  if (o.given i).isSome then o
  else
    let (services, peer) := register o.services (defaultName i)
    { o with services, route := Function.update o.route i peer }

/-- The first Local has an endpoint from the start. -/
def withDefaults (o : Options) : Options := [1, 2, 3, 4, 5].foldl defaultEndpoint o

/-- The service at which a Local is looked for. -/
def serviceOf (o : Options) (i : Fin 6) : Name := (o.given i).getD (defaultName i)

/-- Some Locals have got their endpoints; the others still have the first one. -/
structure Placed (o : Options) (placed : Finset (Fin 6)) : Prop where
  nodup : o.services.Nodup
  first : o.services[0]? = some (defaultName 0)
  second : o.services[1]? = some trainService
  length : o.services.length ≤ 2 + placed.card
  named : ∀ i ∈ placed, o.services[o.route i]? = some (serviceOf o i)
  given : ∀ i, (o.given i).isSome = true → i ∈ placed
  rest : ∀ i, i ∉ placed → o.route i = 0
  proper : ∀ i name, o.given i = some name → name ≠ trainService

theorem defaultName_ne_train (i : Fin 6) : defaultName i ≠ trainService := by
  revert i
  decide

theorem placed_start : Placed optionsStart ∅ where
  nodup := by decide
  first := rfl
  second := rfl
  length := by decide
  named i hi := absurd hi (Finset.notMem_empty i)
  given i hi := absurd hi Bool.false_ne_true
  rest _ _ := rfl
  proper i name hname := absurd hname.symm (Option.some_ne_none name)

variable {o : Options} {placed : Finset (Fin 6)}

/-- `o` with an endpoint for a Local, and with the names that are given then. -/
def place (o : Options) (i : Fin 6) (given : Fin 6 → Option Name) : Options :=
  { o with
    services := (register o.services ((given i).getD (defaultName i))).1
    route := Function.update o.route i (register o.services ((given i).getD (defaultName i))).2
    given }

theorem Placed.place (h : Placed o placed) {i : Fin 6} (hi : i ∉ placed)
    {given : Fin 6 → Option Name} (hother : ∀ j, j ≠ i → given j = o.given j)
    (hproper : ∀ name, given i = some name → name ≠ trainService) :
    Placed (place o i given) (insert i placed) := by
  have hprefix := register_prefix o.services ((given i).getD (defaultName i))
  constructor
  · exact register_nodup h.nodup
  · exact get_of_prefix hprefix h.first
  · exact get_of_prefix hprefix h.second
  · rw [Finset.card_insert_of_notMem hi]
    exact (register_length o.services _).trans (Nat.succ_le_succ h.length)
  · intro j hj
    show (register o.services ((given i).getD (defaultName i))).1[Function.update o.route i
      (register o.services ((given i).getD (defaultName i))).2 j]? =
        some ((given j).getD (defaultName j))
    by_cases heq : j = i
    · rw [heq, Function.update_self]
      exact register_get o.services _
    · have hmem : j ∈ placed := (Finset.mem_insert.mp hj).resolve_left heq
      rw [Function.update_of_ne heq, hother j heq]
      exact get_of_prefix hprefix (h.named j hmem)
  · intro j hj
    have hj : (given j).isSome = true := hj
    by_cases heq : j = i
    · exact heq ▸ Finset.mem_insert_self i placed
    · rw [hother j heq] at hj
      exact Finset.mem_insert_of_mem (h.given j hj)
  · intro j hj
    have hne : j ≠ i := fun heq => hj (heq ▸ Finset.mem_insert_self i placed)
    show Function.update o.route i _ j = 0
    rw [Function.update_of_ne hne]
    exact h.rest j fun hmem => hj (Finset.mem_insert_of_mem hmem)
  · intro j name hname
    have hname : given j = some name := hname
    by_cases heq : j = i
    · exact hproper name (heq ▸ hname)
    · rw [hother j heq] at hname
      exact h.proper j name hname

/-- The Locals that have been given a name. -/
def named (o : Options) : Finset (Fin 6) := Finset.univ.filter fun i => (o.given i).isSome = true

theorem named_place {i : Fin 6} {service : Name} :
    named (place o i (Function.update o.given i (some service))) = insert i (named o) := by
  ext j
  simp only [named, Finset.mem_filter, Finset.mem_univ, true_and, Finset.mem_insert]
  show (Function.update o.given i (some service) j).isSome = true ↔ _
  by_cases heq : j = i
  · rw [heq, Function.update_self]
    simp
  · rw [Function.update_of_ne heq]
    simp [heq]

theorem Placed.congr {o' : Options} (h : Placed o placed) (hservices : o'.services = o.services)
    (hroute : o'.route = o.route) (hgiven : o'.given = o.given) : Placed o' placed := by
  obtain ⟨global, headless, schedulePath, logPath, statusAge, services, route, given⟩ := o'
  subst hservices hroute hgiven
  exact ⟨h.nodup, h.first, h.second, h.length, h.named, h.given, h.rest, h.proper⟩

theorem localEndpoint_placed (h : Placed o (named o)) {mapping : Name} {o' : Options}
    (hmapping : localEndpoint o mapping = .ok o') : Placed o' (named o') := by
  unfold localEndpoint at hmapping
  split at hmapping
  · rename_i letter number sign service
    split at hmapping
    · dsimp only at hmapping
      generalize (⟨(number - 49).toNat, _⟩ : Fin 6) = i at hmapping
      split at hmapping
      · cases hmapping
      · rename_i hfresh
        split at hmapping
        · cases hmapping
        · simp only [not_or] at hfresh
          obtain ⟨hnone, -, htrain⟩ := hfresh
          have hservice : (Function.update o.given i (some service) i).getD (defaultName i) =
              service := by
            rw [Function.update_self, Option.getD_some]
          have hplace : o' = place o i (Function.update o.given i (some service)) := by
            rw [place, hservice]
            exact (Except.ok.inj hmapping).symm
          rw [hplace, named_place]
          apply h.place
          · simpa [named] using hnone
          · exact fun j hj => Function.update_of_ne hj ..
          · intro name hname
            rw [Function.update_self] at hname
            exact Option.some.inj hname ▸ htrain
    · cases hmapping
  · cases hmapping

theorem run_of_ite {p : Prop} [Decidable p] {a b : Outcome}
    (h : (if p then a else b) = .run o) : a = .run o ∨ b = .run o := by
  split at h
  · exact .inl h
  · exact .inr h

theorem parseOptions_placed (args : List Name) (o : Options) (pending : Pending)
    (h : Placed o (named o)) {o' : Options} (hparse : parseOptions o pending args = .run o') :
    Placed o' (named o') := by
  induction args generalizing o pending with
  | nil =>
      cases pending with
      | none => exact Outcome.run.inj hparse ▸ h
      | schedule => cases hparse
      | endpoint => cases hparse
      | log => cases hparse
      | age => cases hparse
  | cons arg rest ih =>
      cases pending with
      | schedule =>
          refine ih _ _ ?_ hparse
          exact h.congr rfl rfl rfl
      | log =>
          refine ih _ _ ?_ hparse
          exact h.congr rfl rfl rfl
      | endpoint =>
          unfold parseOptions at hparse
          split at hparse
          · cases hparse
          · rename_i hmapping
            exact ih _ _ (localEndpoint_placed h hmapping) hparse
      | age =>
          unfold parseOptions at hparse
          split at hparse
          · cases hparse
          · refine ih _ _ ?_ hparse
            exact h.congr rfl rfl rfl
      | none =>
          unfold parseOptions at hparse
          rcases run_of_ite hparse with hhelp | hparse
          · cases hhelp
          rcases run_of_ite hparse with hparse | hparse
          · refine ih _ _ ?_ hparse
            exact h.congr rfl rfl rfl
          rcases run_of_ite hparse with hparse | hparse
          · refine ih _ _ ?_ hparse
            exact h.congr rfl rfl rfl
          rcases run_of_ite hparse with hparse | hparse
          · refine ih _ _ ?_ hparse
            exact h.congr rfl rfl rfl
          rcases run_of_ite hparse with hparse | hparse
          · exact ih _ _ h hparse
          rcases run_of_ite hparse with hparse | hparse
          · exact ih _ _ h hparse
          rcases run_of_ite hparse with hparse | hparse
          · exact ih _ _ h hparse
          rcases run_of_ite hparse with hparse | hparse
          · exact ih _ _ h hparse
          · cases hparse

theorem defaultEndpoint_placed (h : Placed o placed) (i : Fin 6)
    (hnew : (o.given i).isSome = false → i ∉ placed) :
    Placed (defaultEndpoint o i) (insert i placed) ∧ (defaultEndpoint o i).given = o.given := by
  unfold defaultEndpoint
  split
  · rename_i hgiven
    rw [Finset.insert_eq_of_mem (h.given i hgiven)]
    exact ⟨h, rfl⟩
  · rename_i hgiven
    have hnone : o.given i = none := by simpa using hgiven
    have hplaced : Placed (place o i o.given) (insert i placed) :=
      h.place (hnew (by simpa using hgiven)) (fun _ _ => rfl) (h.proper i)
    rw [place, hnone, Option.getD_none] at hplaced
    exact ⟨hplaced, rfl⟩

theorem withDefaults_placed (h : Placed o (named o)) :
    ∃ placed, Placed (withDefaults o) placed ∧ (withDefaults o).given = o.given ∧
      (∀ i, i ≠ 0 → i ∈ placed) ∧ ((0 : Fin 6) ∈ placed → (o.given 0).isSome = true) := by
  have hfold : ∀ (locals : List (Fin 6)) (p : Options) (placed : Finset (Fin 6)),
      Placed p placed → locals.Nodup → (0 : Fin 6) ∉ locals →
      (∀ i ∈ locals, (p.given i).isSome = false → i ∉ placed) →
      ∃ placed', Placed (locals.foldl defaultEndpoint p) placed' ∧
        (locals.foldl defaultEndpoint p).given = p.given ∧
        (∀ i, i ∈ placed' ↔ i ∈ placed ∨ i ∈ locals) := by
    intro locals
    induction locals with
    | nil => exact fun p placed hp _ _ _ => ⟨placed, hp, rfl, by simp⟩
    | cons i locals ih =>
        intro p placed hp hnodup hzero hnew
        obtain ⟨hplaced, hgiven⟩ := defaultEndpoint_placed hp i (hnew i List.mem_cons_self)
        obtain ⟨hi, hlocals⟩ := List.nodup_cons.mp hnodup
        obtain ⟨placed', hfinal, hsame, hmem⟩ := ih (defaultEndpoint p i) (insert i placed) hplaced
          hlocals (fun h => hzero (List.mem_cons_of_mem i h)) (by
            intro j hj hnone
            rw [hgiven] at hnone
            intro hmem
            rcases Finset.mem_insert.mp hmem with rfl | hmem
            · exact hi hj
            · exact hnew j (List.mem_cons_of_mem i hj) hnone hmem)
        refine ⟨placed', hfinal, hsame.trans hgiven, ?_⟩
        intro j
        rw [hmem j, Finset.mem_insert, List.mem_cons, or_comm (a := j = i), or_assoc]
  obtain ⟨placed, hplaced, hgiven, hmem⟩ := hfold [1, 2, 3, 4, 5] o (named o) h (by decide)
    (by decide) (by
      intro i _ hnone hmem
      simp [named, hnone] at hmem)
  refine ⟨placed, hplaced, hgiven, ?_, ?_⟩
  · intro i hi
    refine (hmem i).mpr (Or.inr ?_)
    revert i
    decide
  · intro hzero
    rcases (hmem 0).mp hzero with hnamed | hlist
    · simpa [named] using hnamed
    · exact absurd hlist (by decide)

/-- Whatever command line `main` accepts, it fills at most the `maxPeers` places it has;
every Local is looked for at the service of its own name or of its default, two Locals
share an endpoint exactly when they share the name, and none of them has the endpoint of
the Train. -/
theorem endpoints_assigned (args : List Name) {o : Options}
    (hargs : parseOptions optionsStart .none args = .run o) :
    (withDefaults o).services.length ≤ maxPeers ∧
      (∀ i, (withDefaults o).services[(withDefaults o).route i]? = some (serviceOf o i)) ∧
      (∀ i j, (withDefaults o).route i = (withDefaults o).route j ↔
        serviceOf o i = serviceOf o j) ∧
      ∃ routes : Routes, routes.peerCount = (withDefaults o).services.length ∧
        (∀ i, (routes.route i).val = (withDefaults o).route i) ∧ OwnTrain routes := by
  have hstart : Placed optionsStart (named optionsStart) := by
    have hempty : named optionsStart = ∅ := by decide
    rw [hempty]
    exact placed_start
  have hparsed := parseOptions_placed args optionsStart .none hstart hargs
  obtain ⟨placed, hplaced, hgiven, hothers, hzero⟩ := withDefaults_placed hparsed
  have hlength : (withDefaults o).services.length ≤ maxPeers := by
    have hcard := Finset.card_le_univ placed
    rw [Fintype.card_fin] at hcard
    exact hplaced.length.trans (Nat.add_le_add_left hcard 2)
  have hserved : ∀ i, (withDefaults o).services[(withDefaults o).route i]? =
      some (serviceOf o i) := by
    intro i
    have hsame : serviceOf (withDefaults o) i = serviceOf o i := by
      rw [serviceOf, serviceOf, hgiven]
    by_cases hmem : i ∈ placed
    · rw [hplaced.named i hmem, hsame]
    · have hi : i = 0 := by
        by_contra hne
        exact hmem (hothers i hne)
      subst hi
      have hnone : o.given 0 = none := by
        rw [← hgiven]
        by_contra hsome
        exact hmem (hplaced.given 0 (Option.isSome_iff_ne_none.mpr hsome))
      rw [hplaced.rest 0 hmem, hplaced.first, serviceOf, hnone, Option.getD_none]
  have hlt : ∀ i, (withDefaults o).route i < (withDefaults o).services.length := fun i =>
    (List.getElem?_eq_some_iff.mp (hserved i)).1
  have htrain : ∀ i, (withDefaults o).route i ≠ 1 := by
    intro i hone
    have hservice := hserved i
    rw [hone, hplaced.second] at hservice
    have hname : trainService = serviceOf o i := Option.some.inj hservice
    cases hi : o.given i with
    | none =>
        rw [serviceOf, hi, Option.getD_none] at hname
        exact defaultName_ne_train i hname.symm
    | some name =>
        rw [serviceOf, hi, Option.getD_some] at hname
        exact hparsed.proper i name hi hname.symm
  refine ⟨hlength, hserved, fun i j => index_eq_iff hplaced.nodup (hserved i) (hserved j), ?_⟩
  refine ⟨⟨(withDefaults o).services.length,
    fun i => ⟨(withDefaults o).route i, (hlt i).trans_le hlength⟩, ?_, hlength, hlt⟩, rfl,
    fun _ => rfl, ?_⟩
  · exact (List.getElem?_eq_some_iff.mp hplaced.second).1
  · intro i heq
    exact htrain i (congrArg Fin.val heq)

/-- Two Locals at one service. -/
def sharedArgs : List Name :=
  let option := ascii ['-', '-', 'l', 'o', 'c', 'a', 'l', '-', 'e', 'n', 'd', 'p', 'o', 'i', 'n',
    't']
  [option, ascii ['I', '2', '=', 'v', 'm'], option, ascii ['I', '5', '=', 'v', 'm']]

def sharedOptions : Options :=
  { optionsStart with
    services := [defaultName 0, trainService, ascii ['v', 'm']]
    route := Function.update (Function.update (fun _ => 0) 1 2) 4 2
    given := Function.update (Function.update (fun _ => none) 1 (some (ascii ['v', 'm']))) 4
      (some (ascii ['v', 'm'])) }

theorem endpoints_assigned_shared :
    (withDefaults sharedOptions).route 1 = (withDefaults sharedOptions).route 4 :=
  ((endpoints_assigned sharedArgs rfl).2.2.1 1 4).mpr rfl

end TrafficLight.Endpoints
