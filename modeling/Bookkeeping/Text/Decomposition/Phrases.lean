namespace Bookkeeping.Text

def phraseRuns : List (Nat × List (List Nat)) := [
  (0x00BC, [
    [0x0031, 0x2044, 0x0034], [0x0031, 0x2044, 0x0032], [0x0033, 0x2044, 0x0034]]),
  (0x0132, [
    [0x0049, 0x004A], [0x0069, 0x006A]]),
  (0x013F, [
    [0x004C, 0x00B7], [0x006C, 0x00B7]]),
  (0x0149, [
    [0x02BC, 0x006E]]),
  (0x01C4, [
    [0x0044, 0x005A], [0x0044, 0x007A], [0x0064, 0x007A], [0x004C, 0x004A], [0x004C, 0x006A],
    [0x006C, 0x006A], [0x004E, 0x004A], [0x004E, 0x006A], [0x006E, 0x006A]]),
  (0x01F1, [
    [0x0044, 0x005A], [0x0044, 0x007A], [0x0064, 0x007A]]),
  (0x0587, [
    [0x0565, 0x0582]]),
  (0x0675, [
    [0x0627, 0x0674], [0x0648, 0x0674], [0x06C7, 0x0674], [0x064A, 0x0674]]),
  (0x0EDC, [
    [0x0EAB, 0x0E99], [0x0EAB, 0x0EA1]]),
  (0x1E9A, [
    [0x0061, 0x02BE]]),
  (0x2025, [
    [0x002E, 0x002E], [0x002E, 0x002E, 0x002E]]),
  (0x2033, [
    [0x2032, 0x2032], [0x2032, 0x2032, 0x2032]]),
  (0x2036, [
    [0x2035, 0x2035], [0x2035, 0x2035, 0x2035]]),
  (0x203C, [
    [0x0021, 0x0021]]),
  (0x2047, [
    [0x003F, 0x003F], [0x003F, 0x0021], [0x0021, 0x003F]]),
  (0x2057, [
    [0x2032, 0x2032, 0x2032, 0x2032]]),
  (0x20A8, [
    [0x0052, 0x0073]]),
  (0x2100, [
    [0x0061, 0x002F, 0x0063], [0x0061, 0x002F, 0x0073]]),
  (0x2103, [
    [0x00B0, 0x0043]]),
  (0x2105, [
    [0x0063, 0x002F, 0x006F], [0x0063, 0x002F, 0x0075]]),
  (0x2109, [
    [0x00B0, 0x0046]]),
  (0x2116, [
    [0x004E, 0x006F]]),
  (0x2120, [
    [0x0053, 0x004D], [0x0054, 0x0045, 0x004C], [0x0054, 0x004D]]),
  (0x213B, [
    [0x0046, 0x0041, 0x0058]]),
  (0x2150, [
    [0x0031, 0x2044, 0x0037], [0x0031, 0x2044, 0x0039], [0x0031, 0x2044, 0x0031, 0x0030],
    [0x0031, 0x2044, 0x0033], [0x0032, 0x2044, 0x0033], [0x0031, 0x2044, 0x0035],
    [0x0032, 0x2044, 0x0035], [0x0033, 0x2044, 0x0035], [0x0034, 0x2044, 0x0035],
    [0x0031, 0x2044, 0x0036], [0x0035, 0x2044, 0x0036], [0x0031, 0x2044, 0x0038],
    [0x0033, 0x2044, 0x0038], [0x0035, 0x2044, 0x0038], [0x0037, 0x2044, 0x0038],
    [0x0031, 0x2044]]),
  (0x2161, [
    [0x0049, 0x0049], [0x0049, 0x0049, 0x0049], [0x0049, 0x0056]]),
  (0x2165, [
    [0x0056, 0x0049], [0x0056, 0x0049, 0x0049], [0x0056, 0x0049, 0x0049, 0x0049],
    [0x0049, 0x0058]]),
  (0x216A, [
    [0x0058, 0x0049], [0x0058, 0x0049, 0x0049]]),
  (0x2171, [
    [0x0069, 0x0069], [0x0069, 0x0069, 0x0069], [0x0069, 0x0076]]),
  (0x2175, [
    [0x0076, 0x0069], [0x0076, 0x0069, 0x0069], [0x0076, 0x0069, 0x0069, 0x0069],
    [0x0069, 0x0078]]),
  (0x217A, [
    [0x0078, 0x0069], [0x0078, 0x0069, 0x0069]]),
  (0x2189, [
    [0x0030, 0x2044, 0x0033]]),
  (0x222C, [
    [0x222B, 0x222B], [0x222B, 0x222B, 0x222B]]),
  (0x222F, [
    [0x222E, 0x222E], [0x222E, 0x222E, 0x222E]]),
  (0x2469, [
    [0x0031, 0x0030], [0x0031, 0x0031], [0x0031, 0x0032], [0x0031, 0x0033], [0x0031, 0x0034],
    [0x0031, 0x0035], [0x0031, 0x0036], [0x0031, 0x0037], [0x0031, 0x0038], [0x0031, 0x0039],
    [0x0032, 0x0030], [0x0028, 0x0031, 0x0029], [0x0028, 0x0032, 0x0029],
    [0x0028, 0x0033, 0x0029], [0x0028, 0x0034, 0x0029], [0x0028, 0x0035, 0x0029],
    [0x0028, 0x0036, 0x0029], [0x0028, 0x0037, 0x0029], [0x0028, 0x0038, 0x0029],
    [0x0028, 0x0039, 0x0029], [0x0028, 0x0031, 0x0030, 0x0029], [0x0028, 0x0031, 0x0031, 0x0029],
    [0x0028, 0x0031, 0x0032, 0x0029], [0x0028, 0x0031, 0x0033, 0x0029],
    [0x0028, 0x0031, 0x0034, 0x0029], [0x0028, 0x0031, 0x0035, 0x0029],
    [0x0028, 0x0031, 0x0036, 0x0029], [0x0028, 0x0031, 0x0037, 0x0029],
    [0x0028, 0x0031, 0x0038, 0x0029], [0x0028, 0x0031, 0x0039, 0x0029],
    [0x0028, 0x0032, 0x0030, 0x0029], [0x0031, 0x002E], [0x0032, 0x002E], [0x0033, 0x002E],
    [0x0034, 0x002E], [0x0035, 0x002E], [0x0036, 0x002E], [0x0037, 0x002E], [0x0038, 0x002E],
    [0x0039, 0x002E], [0x0031, 0x0030, 0x002E], [0x0031, 0x0031, 0x002E],
    [0x0031, 0x0032, 0x002E], [0x0031, 0x0033, 0x002E], [0x0031, 0x0034, 0x002E],
    [0x0031, 0x0035, 0x002E], [0x0031, 0x0036, 0x002E], [0x0031, 0x0037, 0x002E],
    [0x0031, 0x0038, 0x002E], [0x0031, 0x0039, 0x002E], [0x0032, 0x0030, 0x002E],
    [0x0028, 0x0061, 0x0029], [0x0028, 0x0062, 0x0029], [0x0028, 0x0063, 0x0029],
    [0x0028, 0x0064, 0x0029], [0x0028, 0x0065, 0x0029], [0x0028, 0x0066, 0x0029],
    [0x0028, 0x0067, 0x0029], [0x0028, 0x0068, 0x0029], [0x0028, 0x0069, 0x0029],
    [0x0028, 0x006A, 0x0029], [0x0028, 0x006B, 0x0029], [0x0028, 0x006C, 0x0029],
    [0x0028, 0x006D, 0x0029], [0x0028, 0x006E, 0x0029], [0x0028, 0x006F, 0x0029],
    [0x0028, 0x0070, 0x0029], [0x0028, 0x0071, 0x0029], [0x0028, 0x0072, 0x0029],
    [0x0028, 0x0073, 0x0029], [0x0028, 0x0074, 0x0029], [0x0028, 0x0075, 0x0029],
    [0x0028, 0x0076, 0x0029], [0x0028, 0x0077, 0x0029], [0x0028, 0x0078, 0x0029],
    [0x0028, 0x0079, 0x0029], [0x0028, 0x007A, 0x0029]]),
  (0x2A0C, [
    [0x222B, 0x222B, 0x222B, 0x222B]]),
  (0x2A74, [
    [0x003A, 0x003A, 0x003D], [0x003D, 0x003D], [0x003D, 0x003D, 0x003D]]),
  (0x309F, [
    [0x3088, 0x308A]]),
  (0x30FF, [
    [0x30B3, 0x30C8]]),
  (0x3200, [
    [0x0028, 0x1100, 0x0029], [0x0028, 0x1102, 0x0029], [0x0028, 0x1103, 0x0029],
    [0x0028, 0x1105, 0x0029], [0x0028, 0x1106, 0x0029], [0x0028, 0x1107, 0x0029],
    [0x0028, 0x1109, 0x0029], [0x0028, 0x110B, 0x0029], [0x0028, 0x110C, 0x0029],
    [0x0028, 0x110E, 0x0029], [0x0028, 0x110F, 0x0029], [0x0028, 0x1110, 0x0029],
    [0x0028, 0x1111, 0x0029], [0x0028, 0x1112, 0x0029], [0x0028, 0x1100, 0x1161, 0x0029],
    [0x0028, 0x1102, 0x1161, 0x0029], [0x0028, 0x1103, 0x1161, 0x0029],
    [0x0028, 0x1105, 0x1161, 0x0029], [0x0028, 0x1106, 0x1161, 0x0029],
    [0x0028, 0x1107, 0x1161, 0x0029], [0x0028, 0x1109, 0x1161, 0x0029],
    [0x0028, 0x110B, 0x1161, 0x0029], [0x0028, 0x110C, 0x1161, 0x0029],
    [0x0028, 0x110E, 0x1161, 0x0029], [0x0028, 0x110F, 0x1161, 0x0029],
    [0x0028, 0x1110, 0x1161, 0x0029], [0x0028, 0x1111, 0x1161, 0x0029],
    [0x0028, 0x1112, 0x1161, 0x0029], [0x0028, 0x110C, 0x116E, 0x0029],
    [0x0028, 0x110B, 0x1169, 0x110C, 0x1165, 0x11AB, 0x0029],
    [0x0028, 0x110B, 0x1169, 0x1112, 0x116E, 0x0029]]),
  (0x3220, [
    [0x0028, 0x4E00, 0x0029], [0x0028, 0x4E8C, 0x0029], [0x0028, 0x4E09, 0x0029],
    [0x0028, 0x56DB, 0x0029], [0x0028, 0x4E94, 0x0029], [0x0028, 0x516D, 0x0029],
    [0x0028, 0x4E03, 0x0029], [0x0028, 0x516B, 0x0029], [0x0028, 0x4E5D, 0x0029],
    [0x0028, 0x5341, 0x0029], [0x0028, 0x6708, 0x0029], [0x0028, 0x706B, 0x0029],
    [0x0028, 0x6C34, 0x0029], [0x0028, 0x6728, 0x0029], [0x0028, 0x91D1, 0x0029],
    [0x0028, 0x571F, 0x0029], [0x0028, 0x65E5, 0x0029], [0x0028, 0x682A, 0x0029],
    [0x0028, 0x6709, 0x0029], [0x0028, 0x793E, 0x0029], [0x0028, 0x540D, 0x0029],
    [0x0028, 0x7279, 0x0029], [0x0028, 0x8CA1, 0x0029], [0x0028, 0x795D, 0x0029],
    [0x0028, 0x52B4, 0x0029], [0x0028, 0x4EE3, 0x0029], [0x0028, 0x547C, 0x0029],
    [0x0028, 0x5B66, 0x0029], [0x0028, 0x76E3, 0x0029], [0x0028, 0x4F01, 0x0029],
    [0x0028, 0x8CC7, 0x0029], [0x0028, 0x5354, 0x0029], [0x0028, 0x796D, 0x0029],
    [0x0028, 0x4F11, 0x0029], [0x0028, 0x81EA, 0x0029], [0x0028, 0x81F3, 0x0029]]),
  (0x3250, [
    [0x0050, 0x0054, 0x0045], [0x0032, 0x0031], [0x0032, 0x0032], [0x0032, 0x0033],
    [0x0032, 0x0034], [0x0032, 0x0035], [0x0032, 0x0036], [0x0032, 0x0037], [0x0032, 0x0038],
    [0x0032, 0x0039], [0x0033, 0x0030], [0x0033, 0x0031], [0x0033, 0x0032], [0x0033, 0x0033],
    [0x0033, 0x0034], [0x0033, 0x0035]]),
  (0x326E, [
    [0x1100, 0x1161], [0x1102, 0x1161], [0x1103, 0x1161], [0x1105, 0x1161], [0x1106, 0x1161],
    [0x1107, 0x1161], [0x1109, 0x1161], [0x110B, 0x1161], [0x110C, 0x1161], [0x110E, 0x1161],
    [0x110F, 0x1161], [0x1110, 0x1161], [0x1111, 0x1161], [0x1112, 0x1161],
    [0x110E, 0x1161, 0x11B7, 0x1100, 0x1169], [0x110C, 0x116E, 0x110B, 0x1174], [0x110B, 0x116E]]),
  (0x32B1, [
    [0x0033, 0x0036], [0x0033, 0x0037], [0x0033, 0x0038], [0x0033, 0x0039], [0x0034, 0x0030],
    [0x0034, 0x0031], [0x0034, 0x0032], [0x0034, 0x0033], [0x0034, 0x0034], [0x0034, 0x0035],
    [0x0034, 0x0036], [0x0034, 0x0037], [0x0034, 0x0038], [0x0034, 0x0039], [0x0035, 0x0030],
    [0x0031, 0x6708], [0x0032, 0x6708], [0x0033, 0x6708], [0x0034, 0x6708], [0x0035, 0x6708],
    [0x0036, 0x6708], [0x0037, 0x6708], [0x0038, 0x6708], [0x0039, 0x6708],
    [0x0031, 0x0030, 0x6708], [0x0031, 0x0031, 0x6708], [0x0031, 0x0032, 0x6708],
    [0x0048, 0x0067], [0x0065, 0x0072, 0x0067], [0x0065, 0x0056], [0x004C, 0x0054, 0x0044]]),
  (0x32FF, [
    [0x4EE4, 0x548C], [0x30A2, 0x30CF, 0x30FC, 0x30C8], [0x30A2, 0x30EB, 0x30D5, 0x30A1],
    [0x30A2, 0x30F3, 0x30D8, 0x30A2], [0x30A2, 0x30FC, 0x30EB], [0x30A4, 0x30CB, 0x30F3, 0x30AF],
    [0x30A4, 0x30F3, 0x30C1], [0x30A6, 0x30A9, 0x30F3], [0x30A8, 0x30B9, 0x30AF, 0x30FC, 0x30C8],
    [0x30A8, 0x30FC, 0x30AB, 0x30FC], [0x30AA, 0x30F3, 0x30B9], [0x30AA, 0x30FC, 0x30E0],
    [0x30AB, 0x30A4, 0x30EA], [0x30AB, 0x30E9, 0x30C3, 0x30C8], [0x30AB, 0x30ED, 0x30EA, 0x30FC],
    [0x30AB, 0x30ED, 0x30F3], [0x30AB, 0x30F3, 0x30DE], [0x30AD, 0x30AB],
    [0x30AD, 0x30CB, 0x30FC], [0x30AD, 0x30E5, 0x30EA, 0x30FC], [0x30AD, 0x30EB, 0x30BF, 0x30FC],
    [0x30AD, 0x30ED], [0x30AD, 0x30ED, 0x30AF, 0x30E9, 0x30E0],
    [0x30AD, 0x30ED, 0x30E1, 0x30FC, 0x30C8, 0x30EB], [0x30AD, 0x30ED, 0x30EF, 0x30C3, 0x30C8],
    [0x30AF, 0x30E9, 0x30E0], [0x30AF, 0x30E9, 0x30E0, 0x30C8, 0x30F3],
    [0x30AF, 0x30EB, 0x30BB, 0x30A4, 0x30ED], [0x30AF, 0x30ED, 0x30FC, 0x30CD],
    [0x30B1, 0x30FC, 0x30B9], [0x30B3, 0x30EB, 0x30CA], [0x30B3, 0x30FC, 0x30DB],
    [0x30B5, 0x30A4, 0x30AF, 0x30EB], [0x30B5, 0x30F3, 0x30C1, 0x30FC, 0x30E0],
    [0x30B7, 0x30EA, 0x30F3, 0x30AF], [0x30BB, 0x30F3, 0x30C1], [0x30BB, 0x30F3, 0x30C8],
    [0x30BF, 0x30FC, 0x30B9], [0x30C6, 0x30B7], [0x30C8, 0x30EB], [0x30C8, 0x30F3],
    [0x30CA, 0x30CE], [0x30CE, 0x30C3, 0x30C8], [0x30CF, 0x30A4, 0x30C4],
    [0x30CF, 0x30FC, 0x30BB, 0x30F3, 0x30C8], [0x30CF, 0x30FC, 0x30C4],
    [0x30CF, 0x30FC, 0x30EC, 0x30EB], [0x30D2, 0x30A2, 0x30B9, 0x30C8, 0x30EB],
    [0x30D2, 0x30AF, 0x30EB], [0x30D2, 0x30B3], [0x30D2, 0x30EB],
    [0x30D5, 0x30A1, 0x30E9, 0x30C3, 0x30C8], [0x30D5, 0x30A3, 0x30FC, 0x30C8],
    [0x30D5, 0x30C3, 0x30B7, 0x30A7, 0x30EB], [0x30D5, 0x30E9, 0x30F3],
    [0x30D8, 0x30AF, 0x30BF, 0x30FC, 0x30EB], [0x30D8, 0x30BD], [0x30D8, 0x30CB, 0x30D2],
    [0x30D8, 0x30EB, 0x30C4], [0x30D8, 0x30F3, 0x30B9], [0x30D8, 0x30FC, 0x30B7],
    [0x30D8, 0x30FC, 0x30BF], [0x30DB, 0x30A4, 0x30F3, 0x30C8], [0x30DB, 0x30EB, 0x30C8],
    [0x30DB, 0x30F3], [0x30DB, 0x30F3, 0x30C8], [0x30DB, 0x30FC, 0x30EB],
    [0x30DB, 0x30FC, 0x30F3], [0x30DE, 0x30A4, 0x30AF, 0x30ED], [0x30DE, 0x30A4, 0x30EB],
    [0x30DE, 0x30C3, 0x30CF], [0x30DE, 0x30EB, 0x30AF], [0x30DE, 0x30F3, 0x30B7, 0x30E7, 0x30F3],
    [0x30DF, 0x30AF, 0x30ED, 0x30F3], [0x30DF, 0x30EA], [0x30DF, 0x30EA, 0x30CF, 0x30FC, 0x30EB],
    [0x30E1, 0x30AB], [0x30E1, 0x30AB, 0x30C8, 0x30F3], [0x30E1, 0x30FC, 0x30C8, 0x30EB],
    [0x30E4, 0x30FC, 0x30C8], [0x30E4, 0x30FC, 0x30EB], [0x30E6, 0x30A2, 0x30F3],
    [0x30EA, 0x30C3, 0x30C8, 0x30EB], [0x30EA, 0x30E9], [0x30EB, 0x30D2, 0x30FC],
    [0x30EB, 0x30FC, 0x30D5, 0x30EB], [0x30EC, 0x30E0], [0x30EC, 0x30F3, 0x30C8, 0x30B1, 0x30F3],
    [0x30EF, 0x30C3, 0x30C8], [0x0030, 0x70B9], [0x0031, 0x70B9], [0x0032, 0x70B9],
    [0x0033, 0x70B9], [0x0034, 0x70B9], [0x0035, 0x70B9], [0x0036, 0x70B9], [0x0037, 0x70B9],
    [0x0038, 0x70B9], [0x0039, 0x70B9], [0x0031, 0x0030, 0x70B9], [0x0031, 0x0031, 0x70B9],
    [0x0031, 0x0032, 0x70B9], [0x0031, 0x0033, 0x70B9], [0x0031, 0x0034, 0x70B9],
    [0x0031, 0x0035, 0x70B9], [0x0031, 0x0036, 0x70B9], [0x0031, 0x0037, 0x70B9],
    [0x0031, 0x0038, 0x70B9], [0x0031, 0x0039, 0x70B9], [0x0032, 0x0030, 0x70B9],
    [0x0032, 0x0031, 0x70B9], [0x0032, 0x0032, 0x70B9], [0x0032, 0x0033, 0x70B9],
    [0x0032, 0x0034, 0x70B9], [0x0068, 0x0050, 0x0061], [0x0064, 0x0061], [0x0041, 0x0055],
    [0x0062, 0x0061, 0x0072], [0x006F, 0x0056], [0x0070, 0x0063], [0x0064, 0x006D],
    [0x0064, 0x006D, 0x0032], [0x0064, 0x006D, 0x0033], [0x0049, 0x0055], [0x5E73, 0x6210],
    [0x662D, 0x548C], [0x5927, 0x6B63], [0x660E, 0x6CBB], [0x682A, 0x5F0F, 0x4F1A, 0x793E],
    [0x0070, 0x0041], [0x006E, 0x0041], [0x03BC, 0x0041], [0x006D, 0x0041], [0x006B, 0x0041],
    [0x004B, 0x0042], [0x004D, 0x0042], [0x0047, 0x0042], [0x0063, 0x0061, 0x006C],
    [0x006B, 0x0063, 0x0061, 0x006C], [0x0070, 0x0046], [0x006E, 0x0046], [0x03BC, 0x0046],
    [0x03BC, 0x0067], [0x006D, 0x0067], [0x006B, 0x0067], [0x0048, 0x007A],
    [0x006B, 0x0048, 0x007A], [0x004D, 0x0048, 0x007A], [0x0047, 0x0048, 0x007A],
    [0x0054, 0x0048, 0x007A], [0x03BC, 0x006C], [0x006D, 0x006C], [0x0064, 0x006C],
    [0x006B, 0x006C], [0x0066, 0x006D], [0x006E, 0x006D], [0x03BC, 0x006D], [0x006D, 0x006D],
    [0x0063, 0x006D], [0x006B, 0x006D], [0x006D, 0x006D, 0x0032], [0x0063, 0x006D, 0x0032],
    [0x006D, 0x0032], [0x006B, 0x006D, 0x0032], [0x006D, 0x006D, 0x0033],
    [0x0063, 0x006D, 0x0033], [0x006D, 0x0033], [0x006B, 0x006D, 0x0033],
    [0x006D, 0x2215, 0x0073], [0x006D, 0x2215, 0x0073, 0x0032], [0x0050, 0x0061],
    [0x006B, 0x0050, 0x0061], [0x004D, 0x0050, 0x0061], [0x0047, 0x0050, 0x0061],
    [0x0072, 0x0061, 0x0064], [0x0072, 0x0061, 0x0064, 0x2215, 0x0073],
    [0x0072, 0x0061, 0x0064, 0x2215, 0x0073, 0x0032], [0x0070, 0x0073], [0x006E, 0x0073],
    [0x03BC, 0x0073], [0x006D, 0x0073], [0x0070, 0x0056], [0x006E, 0x0056], [0x03BC, 0x0056],
    [0x006D, 0x0056], [0x006B, 0x0056], [0x004D, 0x0056], [0x0070, 0x0057], [0x006E, 0x0057],
    [0x03BC, 0x0057], [0x006D, 0x0057], [0x006B, 0x0057], [0x004D, 0x0057], [0x006B, 0x03A9],
    [0x004D, 0x03A9], [0x0061, 0x002E, 0x006D, 0x002E], [0x0042, 0x0071], [0x0063, 0x0063],
    [0x0063, 0x0064], [0x0043, 0x2215, 0x006B, 0x0067], [0x0043, 0x006F, 0x002E],
    [0x0064, 0x0042], [0x0047, 0x0079], [0x0068, 0x0061], [0x0048, 0x0050], [0x0069, 0x006E],
    [0x004B, 0x004B], [0x004B, 0x004D], [0x006B, 0x0074], [0x006C, 0x006D], [0x006C, 0x006E],
    [0x006C, 0x006F, 0x0067], [0x006C, 0x0078], [0x006D, 0x0062], [0x006D, 0x0069, 0x006C],
    [0x006D, 0x006F, 0x006C], [0x0050, 0x0048], [0x0070, 0x002E, 0x006D, 0x002E],
    [0x0050, 0x0050, 0x004D], [0x0050, 0x0052], [0x0073, 0x0072], [0x0053, 0x0076],
    [0x0057, 0x0062], [0x0056, 0x2215, 0x006D], [0x0041, 0x2215, 0x006D], [0x0031, 0x65E5],
    [0x0032, 0x65E5], [0x0033, 0x65E5], [0x0034, 0x65E5], [0x0035, 0x65E5], [0x0036, 0x65E5],
    [0x0037, 0x65E5], [0x0038, 0x65E5], [0x0039, 0x65E5], [0x0031, 0x0030, 0x65E5],
    [0x0031, 0x0031, 0x65E5], [0x0031, 0x0032, 0x65E5], [0x0031, 0x0033, 0x65E5],
    [0x0031, 0x0034, 0x65E5], [0x0031, 0x0035, 0x65E5], [0x0031, 0x0036, 0x65E5],
    [0x0031, 0x0037, 0x65E5], [0x0031, 0x0038, 0x65E5], [0x0031, 0x0039, 0x65E5],
    [0x0032, 0x0030, 0x65E5], [0x0032, 0x0031, 0x65E5], [0x0032, 0x0032, 0x65E5],
    [0x0032, 0x0033, 0x65E5], [0x0032, 0x0034, 0x65E5], [0x0032, 0x0035, 0x65E5],
    [0x0032, 0x0036, 0x65E5], [0x0032, 0x0037, 0x65E5], [0x0032, 0x0038, 0x65E5],
    [0x0032, 0x0039, 0x65E5], [0x0033, 0x0030, 0x65E5], [0x0033, 0x0031, 0x65E5],
    [0x0067, 0x0061, 0x006C]]),
  (0xFB00, [
    [0x0066, 0x0066], [0x0066, 0x0069], [0x0066, 0x006C], [0x0066, 0x0066, 0x0069],
    [0x0066, 0x0066, 0x006C], [0x0073, 0x0074], [0x0073, 0x0074]]),
  (0xFB13, [
    [0x0574, 0x0576], [0x0574, 0x0565], [0x0574, 0x056B], [0x057E, 0x0576], [0x0574, 0x056D]]),
  (0xFB4F, [
    [0x05D0, 0x05DC]]),
  (0xFBDD, [
    [0x06C7, 0x0674]]),
  (0xFBEA, [
    [0x064A, 0x0627], [0x064A, 0x0627], [0x064A, 0x06D5], [0x064A, 0x06D5], [0x064A, 0x0648],
    [0x064A, 0x0648], [0x064A, 0x06C7], [0x064A, 0x06C7], [0x064A, 0x06C6], [0x064A, 0x06C6],
    [0x064A, 0x06C8], [0x064A, 0x06C8], [0x064A, 0x06D0], [0x064A, 0x06D0], [0x064A, 0x06D0],
    [0x064A, 0x0649], [0x064A, 0x0649], [0x064A, 0x0649]]),
  (0xFC00, [
    [0x064A, 0x062C], [0x064A, 0x062D], [0x064A, 0x0645], [0x064A, 0x0649], [0x064A, 0x064A],
    [0x0628, 0x062C], [0x0628, 0x062D], [0x0628, 0x062E], [0x0628, 0x0645], [0x0628, 0x0649],
    [0x0628, 0x064A], [0x062A, 0x062C], [0x062A, 0x062D], [0x062A, 0x062E], [0x062A, 0x0645],
    [0x062A, 0x0649], [0x062A, 0x064A], [0x062B, 0x062C], [0x062B, 0x0645], [0x062B, 0x0649],
    [0x062B, 0x064A], [0x062C, 0x062D], [0x062C, 0x0645], [0x062D, 0x062C], [0x062D, 0x0645],
    [0x062E, 0x062C], [0x062E, 0x062D], [0x062E, 0x0645], [0x0633, 0x062C], [0x0633, 0x062D],
    [0x0633, 0x062E], [0x0633, 0x0645], [0x0635, 0x062D], [0x0635, 0x0645], [0x0636, 0x062C],
    [0x0636, 0x062D], [0x0636, 0x062E], [0x0636, 0x0645], [0x0637, 0x062D], [0x0637, 0x0645],
    [0x0638, 0x0645], [0x0639, 0x062C], [0x0639, 0x0645], [0x063A, 0x062C], [0x063A, 0x0645],
    [0x0641, 0x062C], [0x0641, 0x062D], [0x0641, 0x062E], [0x0641, 0x0645], [0x0641, 0x0649],
    [0x0641, 0x064A], [0x0642, 0x062D], [0x0642, 0x0645], [0x0642, 0x0649], [0x0642, 0x064A],
    [0x0643, 0x0627], [0x0643, 0x062C], [0x0643, 0x062D], [0x0643, 0x062E], [0x0643, 0x0644],
    [0x0643, 0x0645], [0x0643, 0x0649], [0x0643, 0x064A], [0x0644, 0x062C], [0x0644, 0x062D],
    [0x0644, 0x062E], [0x0644, 0x0645], [0x0644, 0x0649], [0x0644, 0x064A], [0x0645, 0x062C],
    [0x0645, 0x062D], [0x0645, 0x062E], [0x0645, 0x0645], [0x0645, 0x0649], [0x0645, 0x064A],
    [0x0646, 0x062C], [0x0646, 0x062D], [0x0646, 0x062E], [0x0646, 0x0645], [0x0646, 0x0649],
    [0x0646, 0x064A], [0x0647, 0x062C], [0x0647, 0x0645], [0x0647, 0x0649], [0x0647, 0x064A],
    [0x064A, 0x062C], [0x064A, 0x062D], [0x064A, 0x062E], [0x064A, 0x0645], [0x064A, 0x0649],
    [0x064A, 0x064A]]),
  (0xFC64, [
    [0x064A, 0x0631], [0x064A, 0x0632], [0x064A, 0x0645], [0x064A, 0x0646], [0x064A, 0x0649],
    [0x064A, 0x064A], [0x0628, 0x0631], [0x0628, 0x0632], [0x0628, 0x0645], [0x0628, 0x0646],
    [0x0628, 0x0649], [0x0628, 0x064A], [0x062A, 0x0631], [0x062A, 0x0632], [0x062A, 0x0645],
    [0x062A, 0x0646], [0x062A, 0x0649], [0x062A, 0x064A], [0x062B, 0x0631], [0x062B, 0x0632],
    [0x062B, 0x0645], [0x062B, 0x0646], [0x062B, 0x0649], [0x062B, 0x064A], [0x0641, 0x0649],
    [0x0641, 0x064A], [0x0642, 0x0649], [0x0642, 0x064A], [0x0643, 0x0627], [0x0643, 0x0644],
    [0x0643, 0x0645], [0x0643, 0x0649], [0x0643, 0x064A], [0x0644, 0x0645], [0x0644, 0x0649],
    [0x0644, 0x064A], [0x0645, 0x0627], [0x0645, 0x0645], [0x0646, 0x0631], [0x0646, 0x0632],
    [0x0646, 0x0645], [0x0646, 0x0646], [0x0646, 0x0649], [0x0646, 0x064A]]),
  (0xFC91, [
    [0x064A, 0x0631], [0x064A, 0x0632], [0x064A, 0x0645], [0x064A, 0x0646], [0x064A, 0x0649],
    [0x064A, 0x064A], [0x064A, 0x062C], [0x064A, 0x062D], [0x064A, 0x062E], [0x064A, 0x0645],
    [0x064A, 0x0647], [0x0628, 0x062C], [0x0628, 0x062D], [0x0628, 0x062E], [0x0628, 0x0645],
    [0x0628, 0x0647], [0x062A, 0x062C], [0x062A, 0x062D], [0x062A, 0x062E], [0x062A, 0x0645],
    [0x062A, 0x0647], [0x062B, 0x0645], [0x062C, 0x062D], [0x062C, 0x0645], [0x062D, 0x062C],
    [0x062D, 0x0645], [0x062E, 0x062C], [0x062E, 0x0645], [0x0633, 0x062C], [0x0633, 0x062D],
    [0x0633, 0x062E], [0x0633, 0x0645], [0x0635, 0x062D], [0x0635, 0x062E], [0x0635, 0x0645],
    [0x0636, 0x062C], [0x0636, 0x062D], [0x0636, 0x062E], [0x0636, 0x0645], [0x0637, 0x062D],
    [0x0638, 0x0645], [0x0639, 0x062C], [0x0639, 0x0645], [0x063A, 0x062C], [0x063A, 0x0645],
    [0x0641, 0x062C], [0x0641, 0x062D], [0x0641, 0x062E], [0x0641, 0x0645], [0x0642, 0x062D],
    [0x0642, 0x0645], [0x0643, 0x062C], [0x0643, 0x062D], [0x0643, 0x062E], [0x0643, 0x0644],
    [0x0643, 0x0645], [0x0644, 0x062C], [0x0644, 0x062D], [0x0644, 0x062E], [0x0644, 0x0645],
    [0x0644, 0x0647], [0x0645, 0x062C], [0x0645, 0x062D], [0x0645, 0x062E], [0x0645, 0x0645],
    [0x0646, 0x062C], [0x0646, 0x062D], [0x0646, 0x062E], [0x0646, 0x0645], [0x0646, 0x0647],
    [0x0647, 0x062C], [0x0647, 0x0645]]),
  (0xFCDA, [
    [0x064A, 0x062C], [0x064A, 0x062D], [0x064A, 0x062E], [0x064A, 0x0645], [0x064A, 0x0647],
    [0x064A, 0x0645], [0x064A, 0x0647], [0x0628, 0x0645], [0x0628, 0x0647], [0x062A, 0x0645],
    [0x062A, 0x0647], [0x062B, 0x0645], [0x062B, 0x0647], [0x0633, 0x0645], [0x0633, 0x0647],
    [0x0634, 0x0645], [0x0634, 0x0647], [0x0643, 0x0644], [0x0643, 0x0645], [0x0644, 0x0645],
    [0x0646, 0x0645], [0x0646, 0x0647], [0x064A, 0x0645], [0x064A, 0x0647]]),
  (0xFCF5, [
    [0x0637, 0x0649], [0x0637, 0x064A], [0x0639, 0x0649], [0x0639, 0x064A], [0x063A, 0x0649],
    [0x063A, 0x064A], [0x0633, 0x0649], [0x0633, 0x064A], [0x0634, 0x0649], [0x0634, 0x064A],
    [0x062D, 0x0649], [0x062D, 0x064A], [0x062C, 0x0649], [0x062C, 0x064A], [0x062E, 0x0649],
    [0x062E, 0x064A], [0x0635, 0x0649], [0x0635, 0x064A], [0x0636, 0x0649], [0x0636, 0x064A],
    [0x0634, 0x062C], [0x0634, 0x062D], [0x0634, 0x062E], [0x0634, 0x0645], [0x0634, 0x0631],
    [0x0633, 0x0631], [0x0635, 0x0631], [0x0636, 0x0631], [0x0637, 0x0649], [0x0637, 0x064A],
    [0x0639, 0x0649], [0x0639, 0x064A], [0x063A, 0x0649], [0x063A, 0x064A], [0x0633, 0x0649],
    [0x0633, 0x064A], [0x0634, 0x0649], [0x0634, 0x064A], [0x062D, 0x0649], [0x062D, 0x064A],
    [0x062C, 0x0649], [0x062C, 0x064A], [0x062E, 0x0649], [0x062E, 0x064A], [0x0635, 0x0649],
    [0x0635, 0x064A], [0x0636, 0x0649], [0x0636, 0x064A], [0x0634, 0x062C], [0x0634, 0x062D],
    [0x0634, 0x062E], [0x0634, 0x0645], [0x0634, 0x0631], [0x0633, 0x0631], [0x0635, 0x0631],
    [0x0636, 0x0631], [0x0634, 0x062C], [0x0634, 0x062D], [0x0634, 0x062E], [0x0634, 0x0645],
    [0x0633, 0x0647], [0x0634, 0x0647], [0x0637, 0x0645], [0x0633, 0x062C], [0x0633, 0x062D],
    [0x0633, 0x062E], [0x0634, 0x062C], [0x0634, 0x062D], [0x0634, 0x062E], [0x0637, 0x0645],
    [0x0638, 0x0645]]),
  (0xFD50, [
    [0x062A, 0x062C, 0x0645], [0x062A, 0x062D, 0x062C], [0x062A, 0x062D, 0x062C],
    [0x062A, 0x062D, 0x0645], [0x062A, 0x062E, 0x0645], [0x062A, 0x0645, 0x062C],
    [0x062A, 0x0645, 0x062D], [0x062A, 0x0645, 0x062E], [0x062C, 0x0645, 0x062D],
    [0x062C, 0x0645, 0x062D], [0x062D, 0x0645, 0x064A], [0x062D, 0x0645, 0x0649],
    [0x0633, 0x062D, 0x062C], [0x0633, 0x062C, 0x062D], [0x0633, 0x062C, 0x0649],
    [0x0633, 0x0645, 0x062D], [0x0633, 0x0645, 0x062D], [0x0633, 0x0645, 0x062C],
    [0x0633, 0x0645, 0x0645], [0x0633, 0x0645, 0x0645], [0x0635, 0x062D, 0x062D],
    [0x0635, 0x062D, 0x062D], [0x0635, 0x0645, 0x0645], [0x0634, 0x062D, 0x0645],
    [0x0634, 0x062D, 0x0645], [0x0634, 0x062C, 0x064A], [0x0634, 0x0645, 0x062E],
    [0x0634, 0x0645, 0x062E], [0x0634, 0x0645, 0x0645], [0x0634, 0x0645, 0x0645],
    [0x0636, 0x062D, 0x0649], [0x0636, 0x062E, 0x0645], [0x0636, 0x062E, 0x0645],
    [0x0637, 0x0645, 0x062D], [0x0637, 0x0645, 0x062D], [0x0637, 0x0645, 0x0645],
    [0x0637, 0x0645, 0x064A], [0x0639, 0x062C, 0x0645], [0x0639, 0x0645, 0x0645],
    [0x0639, 0x0645, 0x0645], [0x0639, 0x0645, 0x0649], [0x063A, 0x0645, 0x0645],
    [0x063A, 0x0645, 0x064A], [0x063A, 0x0645, 0x0649], [0x0641, 0x062E, 0x0645],
    [0x0641, 0x062E, 0x0645], [0x0642, 0x0645, 0x062D], [0x0642, 0x0645, 0x0645],
    [0x0644, 0x062D, 0x0645], [0x0644, 0x062D, 0x064A], [0x0644, 0x062D, 0x0649],
    [0x0644, 0x062C, 0x062C], [0x0644, 0x062C, 0x062C], [0x0644, 0x062E, 0x0645],
    [0x0644, 0x062E, 0x0645], [0x0644, 0x0645, 0x062D], [0x0644, 0x0645, 0x062D],
    [0x0645, 0x062D, 0x062C], [0x0645, 0x062D, 0x0645], [0x0645, 0x062D, 0x064A],
    [0x0645, 0x062C, 0x062D], [0x0645, 0x062C, 0x0645], [0x0645, 0x062E, 0x062C],
    [0x0645, 0x062E, 0x0645]]),
  (0xFD92, [
    [0x0645, 0x062C, 0x062E], [0x0647, 0x0645, 0x062C], [0x0647, 0x0645, 0x0645],
    [0x0646, 0x062D, 0x0645], [0x0646, 0x062D, 0x0649], [0x0646, 0x062C, 0x0645],
    [0x0646, 0x062C, 0x0645], [0x0646, 0x062C, 0x0649], [0x0646, 0x0645, 0x064A],
    [0x0646, 0x0645, 0x0649], [0x064A, 0x0645, 0x0645], [0x064A, 0x0645, 0x0645],
    [0x0628, 0x062E, 0x064A], [0x062A, 0x062C, 0x064A], [0x062A, 0x062C, 0x0649],
    [0x062A, 0x062E, 0x064A], [0x062A, 0x062E, 0x0649], [0x062A, 0x0645, 0x064A],
    [0x062A, 0x0645, 0x0649], [0x062C, 0x0645, 0x064A], [0x062C, 0x062D, 0x0649],
    [0x062C, 0x0645, 0x0649], [0x0633, 0x062E, 0x0649], [0x0635, 0x062D, 0x064A],
    [0x0634, 0x062D, 0x064A], [0x0636, 0x062D, 0x064A], [0x0644, 0x062C, 0x064A],
    [0x0644, 0x0645, 0x064A], [0x064A, 0x062D, 0x064A], [0x064A, 0x062C, 0x064A],
    [0x064A, 0x0645, 0x064A], [0x0645, 0x0645, 0x064A], [0x0642, 0x0645, 0x064A],
    [0x0646, 0x062D, 0x064A], [0x0642, 0x0645, 0x062D], [0x0644, 0x062D, 0x0645],
    [0x0639, 0x0645, 0x064A], [0x0643, 0x0645, 0x064A], [0x0646, 0x062C, 0x062D],
    [0x0645, 0x062E, 0x064A], [0x0644, 0x062C, 0x0645], [0x0643, 0x0645, 0x0645],
    [0x0644, 0x062C, 0x0645], [0x0646, 0x062C, 0x062D], [0x062C, 0x062D, 0x064A],
    [0x062D, 0x062C, 0x064A], [0x0645, 0x062C, 0x064A], [0x0641, 0x0645, 0x064A],
    [0x0628, 0x062D, 0x064A], [0x0643, 0x0645, 0x0645], [0x0639, 0x062C, 0x0645],
    [0x0635, 0x0645, 0x0645], [0x0633, 0x062E, 0x064A], [0x0646, 0x062C, 0x064A]]),
  (0xFDF0, [
    [0x0635, 0x0644, 0x06D2], [0x0642, 0x0644, 0x06D2], [0x0627, 0x0644, 0x0644, 0x0647],
    [0x0627, 0x0643, 0x0628, 0x0631], [0x0645, 0x062D, 0x0645, 0x062F],
    [0x0635, 0x0644, 0x0639, 0x0645], [0x0631, 0x0633, 0x0648, 0x0644],
    [0x0639, 0x0644, 0x064A, 0x0647], [0x0648, 0x0633, 0x0644, 0x0645], [0x0635, 0x0644, 0x0649],
    [0x0635, 0x0644, 0x0649, 0x0020, 0x0627, 0x0644, 0x0644, 0x0647, 0x0020, 0x0639, 0x0644,
      0x064A, 0x0647, 0x0020, 0x0648, 0x0633, 0x0644, 0x0645],
    [0x062C, 0x0644, 0x0020, 0x062C, 0x0644, 0x0627, 0x0644, 0x0647],
    [0x0631, 0x06CC, 0x0627, 0x0644]]),
  (0xFE19, [
    [0x002E, 0x002E, 0x002E]]),
  (0xFE30, [
    [0x002E, 0x002E]]),
  (0xFEF5, [
    [0x0644, 0x0627], [0x0644, 0x0627], [0x0644, 0x0627], [0x0644, 0x0627], [0x0644, 0x0627],
    [0x0644, 0x0627], [0x0644, 0x0627], [0x0644, 0x0627]]),
  (0xFF9E, [
    [], []]),
  (0x16D68, [
    [0x16D67, 0x16D67], [0x16D63, 0x16D67], [0x16D63, 0x16D67, 0x16D67]]),
  (0x1F100, [
    [0x0030, 0x002E], [0x0030, 0x002C], [0x0031, 0x002C], [0x0032, 0x002C], [0x0033, 0x002C],
    [0x0034, 0x002C], [0x0035, 0x002C], [0x0036, 0x002C], [0x0037, 0x002C], [0x0038, 0x002C],
    [0x0039, 0x002C]]),
  (0x1F110, [
    [0x0028, 0x0041, 0x0029], [0x0028, 0x0042, 0x0029], [0x0028, 0x0043, 0x0029],
    [0x0028, 0x0044, 0x0029], [0x0028, 0x0045, 0x0029], [0x0028, 0x0046, 0x0029],
    [0x0028, 0x0047, 0x0029], [0x0028, 0x0048, 0x0029], [0x0028, 0x0049, 0x0029],
    [0x0028, 0x004A, 0x0029], [0x0028, 0x004B, 0x0029], [0x0028, 0x004C, 0x0029],
    [0x0028, 0x004D, 0x0029], [0x0028, 0x004E, 0x0029], [0x0028, 0x004F, 0x0029],
    [0x0028, 0x0050, 0x0029], [0x0028, 0x0051, 0x0029], [0x0028, 0x0052, 0x0029],
    [0x0028, 0x0053, 0x0029], [0x0028, 0x0054, 0x0029], [0x0028, 0x0055, 0x0029],
    [0x0028, 0x0056, 0x0029], [0x0028, 0x0057, 0x0029], [0x0028, 0x0058, 0x0029],
    [0x0028, 0x0059, 0x0029], [0x0028, 0x005A, 0x0029], [0x3014, 0x0053, 0x3015]]),
  (0x1F12D, [
    [0x0043, 0x0044], [0x0057, 0x005A]]),
  (0x1F14A, [
    [0x0048, 0x0056], [0x004D, 0x0056], [0x0053, 0x0044], [0x0053, 0x0053],
    [0x0050, 0x0050, 0x0056], [0x0057, 0x0043]]),
  (0x1F16A, [
    [0x004D, 0x0043], [0x004D, 0x0044], [0x004D, 0x0052]]),
  (0x1F190, [
    [0x0044, 0x004A]]),
  (0x1F200, [
    [0x307B, 0x304B], [0x30B3, 0x30B3]]),
  (0x1F240, [
    [0x3014, 0x672C, 0x3015], [0x3014, 0x4E09, 0x3015], [0x3014, 0x4E8C, 0x3015],
    [0x3014, 0x5B89, 0x3015], [0x3014, 0x70B9, 0x3015], [0x3014, 0x6253, 0x3015],
    [0x3014, 0x76D7, 0x3015], [0x3014, 0x52DD, 0x3015], [0x3014, 0x6557, 0x3015]])]

end Bookkeeping.Text
