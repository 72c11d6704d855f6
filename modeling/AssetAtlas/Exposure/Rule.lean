import AssetAtlas.Query.Program

/-!
What makes an asset reachable from the public internet, as conditions of a query.
-/

namespace AssetAtlas

inductive Exposure where
  /-- A security group rule that lets in every address. -/
  | openIngress
  /-- A bucket with a public policy. -/
  | publicBucket
  /-- An instance with a public address or name. -/
  | publicInstance
deriving DecidableEq, Repr

namespace Exposure

def all : List Exposure := [.openIngress, .publicBucket, .publicInstance]

def label : Exposure → String
  | .openIngress => "aws_vpc_security_group_rule"
  | .publicBucket => "aws_s3_bucket"
  | .publicInstance => "aws_ec2_instance"

def everywhere : String := "0.0.0.0/0"

open Query in
def predicate (e : Exposure) (var : String) : Predicate :=
  let condition := match e with
    | .openIngress =>
      .and [.equal var "cidr_ipv4" (.text everywhere),
        .unequal var "type" (.text "egress")]
    | .publicBucket => .equal var "bucket_policy_is_public" (.bool true)
    | .publicInstance =>
      .or [.isPresent var "public_ip_address", .isPresent var "public_dns_name"]
  .and [.hasLabel var e.label, condition]

def anyPredicate (var : String) : Query.Predicate :=
  .or (all.map (·.predicate var))

end Exposure

end AssetAtlas
