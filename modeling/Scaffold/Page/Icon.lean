/-!
# Outline icons

The paths of the icons that pages use, drawn on a grid of 24 by 24.
-/

namespace Scaffold.Icon

def check : String := "M5 13l4 4L19 7"

def arrowRight : String := "M13 7l5 5m0 0l-5 5m5-5H6"

def bolt : String := "M13 10V3L4 14h7v7l9-11h-7z"

def shield : String :=
  "M9 12l2 2 4-4m5.618-4.016A11.955 11.955 0 0112 2.944a11.955 11.955 0 01-8.618 " ++
  "3.04A12.02 12.02 0 003 9c0 5.591 3.824 10.29 9 11.622 5.176-1.332 9-6.03 9-11.622 " ++
  "0-1.042-.133-2.052-.382-3.016z"

def chart : String :=
  "M9 19v-6a2 2 0 00-2-2H5a2 2 0 00-2 2v6a2 2 0 002 2h2a2 2 0 002-2zm0 0V9a2 2 0 " ++
  "012-2h2a2 2 0 012 2v10m-6 0a2 2 0 002 2h2a2 2 0 002-2m0 0V5a2 2 0 012-2h2a2 2 0 012 " ++
  "2v14a2 2 0 01-2 2h-2a2 2 0 01-2-2z"

def users : String :=
  "M17 20h5v-2a3 3 0 00-5.356-1.857M17 20H7m10 0v-2c0-.656-.126-1.283-.356-1.857M7 " ++
  "20H2v-2a3 3 0 015.356-1.857M7 20v-2c0-.656.126-1.283.356-1.857m0 0a5.002 5.002 0 " ++
  "019.288 0M15 7a3 3 0 11-6 0 3 3 0 016 0z"

def home : String :=
  "M3 12l2-2m0 0l7-7 7 7M5 10v10a1 1 0 001 1h3m10-11l2 2m-2-2v10a1 1 0 01-1 1h-3m-6 " ++
  "0a1 1 0 001-1v-4a1 1 0 011-1h2a1 1 0 011 1v4a1 1 0 001 1m-6 0h6"

def cog : String :=
  "M10.325 4.317c.426-1.756 2.924-1.756 3.35 0a1.724 1.724 0 002.573 1.066c1.543-.94 " ++
  "3.31.826 2.37 2.37a1.724 1.724 0 001.065 2.572c1.756.426 1.756 2.924 0 3.35a1.724 " ++
  "1.724 0 00-1.066 2.573c.94 1.543-.826 3.31-2.37 2.37a1.724 1.724 0 00-2.572 " ++
  "1.065c-.426 1.756-2.924 1.756-3.35 0a1.724 1.724 0 " ++
  "00-2.573-1.066c-1.543.94-3.31-.826-2.37-2.37a1.724 1.724 0 " ++
  "00-1.065-2.572c-1.756-.426-1.756-2.924 0-3.35a1.724 1.724 0 " ++
  "001.066-2.573c-.94-1.543.826-3.31 2.37-2.37.996.608 2.296.07 2.572-1.065z"

def search : String := "M21 21l-6-6m2-5a7 7 0 11-14 0 7 7 0 0114 0z"

def plus : String := "M12 4v16m8-8H4"

def pencil : String :=
  "M15.232 5.232l3.536 3.536M9 11l6.536-6.536a2.5 2.5 0 113.536 3.536L12.536 14.536 9 " ++
  "16H8v-1l1-4z"

def trash : String :=
  "M19 7l-.867 12.142A2 2 0 0116.138 21H7.862a2 2 0 01-1.995-1.858L5 7m5 " ++
  "4v6m4-6v6m1-10V4a1 1 0 00-1-1h-4a1 1 0 00-1 1v3M4 7h16"

end Scaffold.Icon
