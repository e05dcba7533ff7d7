import KubeHcl.Naming

/-!
# Settings

What the generated declarations refer to. The defaults are the alpha provider and its manifest
resource.
-/

namespace KubeHcl

/-- The settings of a run. -/
structure Config where
  /-- The provider that every declaration selects. -/
  providerAlias : String := "kubernetes-alpha"
  /-- Where the provider comes from. -/
  providerSource : String := "hashicorp/kubernetes-alpha"
  /-- Which versions of the provider will do. -/
  providerVersion : String := ">= 0.2.1"
  /-- The path of the configuration the provider is given. -/
  configPath : String := "~/.kube/config"
  /-- The type of every declared resource. -/
  resourceType : String := "kubernetes_manifest"
  /-- The attribute that holds a resource's document. -/
  manifestAttribute : String := "manifest"
  deriving Inhabited

/-- Whether the provider alias is a name that can be referred to. -/
def Config.AliasValid (config : Config) : Prop := Naming.IsValid config.providerAlias.toList

instance (config : Config) : Decidable config.AliasValid :=
  inferInstanceAs (Decidable (Naming.IsValid _))

end KubeHcl
