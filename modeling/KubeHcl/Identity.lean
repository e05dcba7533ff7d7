/-!
# Identities of resources

A resource is identified by its group, version, kind, namespace and name. The text of an identity is
the one that fingerprints are taken of, so it never changes its form.
-/

namespace KubeHcl

/-- What tells a resource from all others. An empty namespace means that it belongs to none, an
empty group is the core group. -/
structure Identity where
  group : String
  version : String
  kind : String
  /-- The namespace. -/
  ns : String
  name : String
  deriving DecidableEq, Repr, Inhabited

namespace Identity

/-- Splits an API version at its last slash into group and version. One without a slash belongs to
the core group. -/
def splitApiVersion (cs : List Char) : List Char × List Char :=
  let version := (cs.reverse.takeWhile (· ≠ '/')).reverse
  match cs.reverse.dropWhile (· ≠ '/') with
  | [] => ([], cs)
  | _ :: group => (group.reverse, version)

/-- The identity of a resource with the given API version. -/
def ofApiVersion (apiVersion kind ns name : String) : Identity :=
  let (group, version) := splitApiVersion apiVersion.toList
  ⟨String.ofList group, String.ofList version, kind, ns, name⟩

/-- The identity of the resource that declares a namespace. -/
def namespaceCalled (name : String) : Identity := ⟨"", "v1", "Namespace", "", name⟩

/-- A field of an identity, or its stand-in when it is empty. -/
def orStandIn (field standIn : String) : String := if field.isEmpty then standIn else field

/-- The text of an identity, such as `apps_v1_Deployment|default|web` or `~G_v1_Namespace|~X|acme`.
-/
def text (id : Identity) : String :=
  orStandIn id.group "~G" ++ "_" ++ orStandIn id.version "~V" ++ "_" ++ orStandIn id.kind "~K" ++
    "|" ++ orStandIn id.ns "~X" ++ "|" ++ orStandIn id.name "~N"

/-- The identity in another namespace. -/
def withNamespace (id : Identity) (ns : String) : Identity := { id with ns := ns }

end Identity

end KubeHcl
