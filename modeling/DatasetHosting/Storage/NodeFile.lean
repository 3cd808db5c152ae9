import DatasetHosting.Storage.Plan

/-!
# Storage/NodeFile — configuration files of a node

Every node of a cluster gets its cluster properties. If some content lies in the object store, every node
also gets a file store configuration, the same on all of them.
-/

namespace DatasetHosting

/-- A file for the home directory of a node. -/
structure NodeFile where
  /-- The file's name. -/
  name : String
  /-- The text to write. -/
  contents : String
  /-- Whether the text goes behind what the file already holds. -/
  append : Bool
  deriving DecidableEq, Repr, Inhabited

namespace NodeFile

/-- Lines, each with its line end. -/
def lines (texts : List String) : String :=
  String.join (texts.map (· ++ "\n"))

/-- **The cluster properties** of the node with the given index and address. -/
def clusterProperties (index : UInt64) (privateIp sharedHome : String) : NodeFile where
  name := "cluster.properties"
  contents := lines
    ["ehcache.listener.hostName = " ++ privateIp,
     "ehcache.object.port = 40011",
     "jira.node.id = node" ++ toString index.toNat,
     "jira.shared.home = " ++ sharedHome]
  append := true

/-- The line that sends a kind of content to the bucket. -/
def association (binding : Binding) : String :=
  "    <association target=\"" ++ binding.resource.target ++ "\" file-store=\"s3Bucket\" />"

/-- **The file store configuration** for the bindings in the object store, none if there are none. Names
are written as they are. -/
def filestoreConfig? (store : ObjectStore) (bindings : List Binding) : Option NodeFile :=
  match bindings.filter (·.placement == .objectStore) with
  | [] => none
  | stored => some {
      name := "filestore-config.xml"
      contents := lines
        (["<?xml version=\"1.1\" ?>",
          "<filestore-config>",
          "  <filestores>",
          "    <s3-filestore id=\"s3Bucket\">",
          "      <config>",
          "        <bucket-name>" ++ store.bucket ++ "</bucket-name>",
          "        <region>" ++ store.region.apiName ++ "</region>",
          "      </config>",
          "    </s3-filestore>",
          "  </filestores>",
          "  <associations>"]
        ++ stored.map association ++
         ["  </associations>",
          "</filestore-config>"])
      append := false }

end NodeFile

end DatasetHosting
