import ChainParams.Config.Basic
import ChainParams.Parameters.Validity
import ChainParams.Registry
import ChainParams.Report

/-!
# Enrollment — registering the networks of a configuration

The networks are registered one by one, in the order of the configuration, and the first that
cannot be registered ends it: those before it stay registered, and those after it are not looked at.
Names of built-in networks are not to be had, so that such a name always means the built-in network.
-/

namespace ChainParams

inductive EnrollmentError
  /-- A built-in network has this name. -/
  | shadowsBuiltin (name : String)
  | invalid (name : String) (cause : ParamsError)
  | refused (name : String) (cause : ParamsError)
  deriving DecidableEq, Repr

def EnrollmentError.report : EnrollmentError → Report
  | .shadowsBuiltin name => ⟨"custom network " ++ name ++ " shadows a built-in network", none⟩
  | .invalid name cause => ⟨"custom network " ++ name ++ " is invalid", some cause.message⟩
  | .refused name cause => ⟨"cannot register custom network " ++ name, some cause.message⟩

structure Enrollment where
  /-- The registry afterwards, also where `result` is an error. -/
  registry : Registry
  /-- The notices of all registrations, in their order. -/
  notices : List Notice
  /-- The parameters of all networks, in their order, or why one of them is not registered. -/
  result : Except EnrollmentError (List Parameters)

namespace Enrollment

/-- The enrollment `e` of the networks behind `p`, with what registering `p` adds to it. -/
def after (p : Parameters) (notice? : Option Notice) (e : Enrollment) : Enrollment :=
  { registry := e.registry
    notices := notice?.toList ++ e.notices
    result := e.result.map (p :: ·) }

end Enrollment

/-- Registers the networks of a list in their order, up to the first one that has a built-in name,
is invalid or is refused by `register`. -/
def Registry.enroll (r : Registry) : List CustomNetwork → Enrollment
  | [] => ⟨r, [], .ok []⟩
  | c :: cs =>
      if (Network.ofName? c.name).isSome then ⟨r, [], .error (.shadowsBuiltin c.name)⟩
      else
        match c.parameters.validate with
        | .error cause => ⟨r, [], .error (.invalid c.name cause)⟩
        | .ok () =>
            let done := r.register c.parameters
            match done.result with
            | .error cause => ⟨done.registry, done.notice?.toList, .error (.refused c.name cause)⟩
            | .ok () => (done.registry.enroll cs).after c.parameters done.notice?

/-- The built-in network called `name`, or else the first of `customs` that has this name. -/
def findNetwork? (customs : List Parameters) (name : String) : Option Parameters :=
  match Network.ofName? name with
  | some n => some n.parameters
  | none => customs.find? fun p => p.name == name

def findNetwork (customs : List Parameters) (name : String) : Except Report Parameters :=
  match findNetwork? customs name with
  | some p => .ok p
  | none => .error ⟨"unknown network " ++ Text.quoted name, none⟩

end ChainParams
